import AccessDecision.Proofs.Network.Mapped

/-
  Texts of socket addresses

  A socket address is an address with a port. A short address stands alone before the
  colon; a long one stands in brackets, since it holds colons itself, and may name a
  scope behind a percent sign. Ports and scopes are decimal numbers with any number of
  leading zeros.

  What is proved:
    1. `colon_of_readV4?` and `not_mem_of_readV6?` — none of the signs that end an address
       in a socket address occurs in the address.
    2. `socketHost?_eq_some` — so the host of a socket address is the address that
       stands in its place, in whichever spelling (`SocketText`).
-/

namespace AccessDecision.Network

open Address (readV4? readV6?)
open Text (WritesNat)

theorem colon_of_readV4? {g : Grammar} {cs : List Char} {a : Address} (h : readV4? g cs = some a) :
    ':' ∉ cs := by
  obtain ⟨os, hos, _⟩ := Option.map_eq_some_iff.mp h
  exact colon_of_octets? hos

theorem not_mem_of_readV6? {g : Grammar} {cs : List Char} {a : Address} {c : Char}
    (h : readV6? g cs = some a) (hc : ¬ IsAddressChar c) : c ∉ cs := by
  obtain ⟨gs, hgs, _⟩ := Option.map_eq_some_iff.mp h
  exact fun hm => hc (chars_of_eightGroups? hgs c hm)

/-- The socket addresses of an address: its text, in any spelling, with a port, and with
a scope if the address is a long one. -/
inductive SocketText : List Char → Address → Prop where
  | short {host service : List Char} {a : Address} {port : Nat} :
      readV4? .strict host = some a → WritesNat service port → port < 2 ^ 16 →
      SocketText (host ++ ':' :: service) a
  | long {host service : List Char} {a : Address} {port : Nat} :
      readV6? .strict host = some a → WritesNat service port → port < 2 ^ 16 →
      SocketText ('[' :: (host ++ ']' :: ':' :: service)) a
  | withScope {host scope service : List Char} {a : Address} {zone port : Nat} :
      readV6? .strict host = some a → WritesNat scope zone → zone < 2 ^ 32 →
      WritesNat service port → port < 2 ^ 16 →
      SocketText ('[' :: ((host ++ '%' :: scope) ++ ']' :: ':' :: service)) a

namespace socketHost?

variable {cs : List Char} {a : Address}

theorem below_iff {bound : Nat} : below bound cs = true ↔ ∃ n, WritesNat cs n ∧ n < bound := by
  simp only [below, Option.any_eq_true, Text.decimal?_eq_some, decide_eq_true_eq]

theorem short_eq_some : short cs = some a ↔
    ∃ host service, cs = host ++ ':' :: service ∧ ':' ∉ host ∧ readV4? .strict host = some a ∧
      below (2 ^ 16) service = true := by
  simp only [short, Option.bind_eq_bind, Option.bind_eq_some_iff, Prod.exists,
    Text.cutAt_eq_some, Option.ite_none_right_eq_some, Option.some.injEq]
  constructor
  · rintro ⟨host, service, ⟨rfl, hcolon⟩, _, hread, hbelow, rfl⟩
    exact ⟨host, service, rfl, hcolon, hread, hbelow⟩
  · rintro ⟨host, service, rfl, hcolon, hread, hbelow⟩
    exact ⟨host, service, ⟨rfl, hcolon⟩, a, hread, hbelow, rfl⟩

/-- A text in brackets is no short socket address. -/
theorem short_bracket (cs : List Char) : short ('[' :: cs) = none := by
  rw [Option.eq_none_iff_forall_ne_some]
  intro a h
  obtain ⟨host, service, heq, _, hread, _⟩ := short_eq_some.mp h
  cases host with
  | nil => cases heq
  | cons c host =>
    cases heq
    obtain ⟨os, hos, _⟩ := Option.map_eq_some_iff.mp hread
    rcases digit_of_octets? hos '[' List.mem_cons_self with hc | hc
    · cases hc
    · cases hc

/-- What stands in brackets is a long address, and perhaps a scope behind a sign. -/
theorem long_eq_some : long cs = some a ↔
    ∃ inside service, cs = '[' :: (inside ++ ']' :: ':' :: service) ∧ ']' ∉ inside ∧
      below (2 ^ 16) service = true ∧
      ((Text.cutAt '%' inside = none ∧ readV6? .strict inside = some a) ∨
        ∃ host scope, Text.cutAt '%' inside = some (host, scope) ∧
          readV6? .strict host = some a ∧ below (2 ^ 32) scope = true) := by
  constructor
  · intro h
    unfold long at h
    split at h
    · rename_i rest
      simp only [Option.bind_eq_bind, Option.bind_eq_some_iff, Prod.exists] at h
      obtain ⟨inside, after, hcut, a', hread, h⟩ := h
      obtain ⟨rfl, hbracket⟩ := Text.cutAt_eq_some.mp hcut
      split at h
      · rename_i service
        obtain ⟨hok, heq⟩ := Option.ite_none_right_eq_some.mp h
        rw [Bool.and_eq_true] at hok
        cases heq
        refine ⟨inside, service, rfl, hbracket, hok.2, ?_⟩
        cases hscope : Text.cutAt '%' inside with
        | none =>
          rw [hscope] at hread
          exact .inl ⟨rfl, hread⟩
        | some parts =>
          rw [hscope] at hread hok
          exact .inr ⟨parts.1, parts.2, rfl, hread, hok.1⟩
      · cases h
    · cases h
  · rintro ⟨inside, service, rfl, hbracket, hservice, hinside⟩
    rcases hinside with ⟨hscope, hread⟩ | ⟨host, scope, hscope, hread, hbelow⟩
    · simp only [long, Text.cutAt_append hbracket, Option.bind_eq_bind, Option.bind_some, hscope,
        hread, hservice, Bool.and_self, if_true]
    · simp only [long, Text.cutAt_append hbracket, Option.bind_eq_bind, Option.bind_some, hscope,
        hread, hbelow, hservice, Bool.and_self, if_true]

end socketHost?

/-- The host of a text is the address of the socket address that the text is. -/
theorem socketHost?_eq_some {text : String} {a : Address} :
    socketHost? text = some a ↔ SocketText text.toList a := by
  rw [socketHost?, Option.or_eq_some_iff, socketHost?.short_eq_some, socketHost?.long_eq_some]
  constructor
  · rintro (⟨host, service, heq, _, hread, hport⟩ |
      ⟨_, inside, service, heq, _, hport, ⟨_, hread⟩ | ⟨host, scope, hcut, hread, hzone⟩⟩)
    · obtain ⟨port, hwrites, hlt⟩ := socketHost?.below_iff.mp hport
      exact heq ▸ .short hread hwrites hlt
    · obtain ⟨port, hwrites, hlt⟩ := socketHost?.below_iff.mp hport
      exact heq ▸ .long hread hwrites hlt
    · obtain ⟨port, hwrites, hlt⟩ := socketHost?.below_iff.mp hport
      obtain ⟨zone, hscope, hzone⟩ := socketHost?.below_iff.mp hzone
      obtain ⟨rfl, _⟩ := Text.cutAt_eq_some.mp hcut
      exact heq ▸ .withScope hread hscope hzone hwrites hlt
  · intro h
    generalize text.toList = cs at h
    cases h with
    | short hread hwrites hlt =>
      left
      exact ⟨_, _, rfl, colon_of_readV4? hread, hread, socketHost?.below_iff.mpr ⟨_, hwrites, hlt⟩⟩
    | long hread hwrites hlt =>
      right
      refine ⟨socketHost?.short_bracket _, _, _, rfl, not_mem_of_readV6? hread (by decide),
        socketHost?.below_iff.mpr ⟨_, hwrites, hlt⟩, .inl ⟨?_, hread⟩⟩
      exact Text.cutAt_eq_none.mpr (not_mem_of_readV6? hread (by decide))
    | @withScope host scope _ _ _ _ hread hscope hzone hwrites hlt =>
      right
      refine ⟨socketHost?.short_bracket _, _, _, rfl, ?_,
        socketHost?.below_iff.mpr ⟨_, hwrites, hlt⟩, .inr ⟨host, scope, ?_, hread, ?_⟩⟩
      · intro hbracket
        rcases List.mem_append.mp hbracket with hm | hm
        · exact not_mem_of_readV6? hread (by decide) hm
        · rcases List.mem_cons.mp hm with hm | hm
          · cases hm
          · cases hscope.isDigit.2 ']' hm
      · exact Text.cutAt_append (not_mem_of_readV6? hread (by decide)) _
      · exact socketHost?.below_iff.mpr ⟨_, hscope, hzone⟩

end AccessDecision.Network

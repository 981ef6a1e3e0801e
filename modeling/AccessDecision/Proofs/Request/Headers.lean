import AccessDecision.Proofs.KeyMap
import AccessDecision.Registry
import Mathlib.Data.List.Forall2

/-
  Headers by the calls that set them

  Headers are set one after the other, under names in any case, and a later value
  replaces an earlier one of the same name. An empty value is as good as none, also where
  it replaces another one.

  What is proved:
    1. `headerKey_eq_iff` — two names are kept under the same key exactly if they differ
       in the case of ASCII letters at most (`SameName`).
    2. `header?_insertHeaders_eq_some` and `header?_insertHeaders_eq_none` — a header has
       the value that was set last under its name, unless that is empty.
    3. `sourceIp_eq_some` — the client is the first of the proxy headers that has a value,
       and the peer only if none has.
-/

namespace AccessDecision

/-! ## Names up to case -/

/-- Two characters are equal or the two cases of an ASCII letter. -/
def SameLetter (c d : Char) : Prop :=
  c = d ∨ (c.isUpper = true ∧ d.toNat = c.toNat + 32) ∨ (d.isUpper = true ∧ c.toNat = d.toNat + 32)

/-- Two names differ in the case of ASCII letters at most. -/
def SameName (a b : String) : Prop := List.Forall₂ SameLetter a.toList b.toList

theorem isUpper_iff_range {c : Char} : c.isUpper = true ↔ c.val ≥ 'A'.val ∧ c.val ≤ 'Z'.val :=
  decide_eq_true_iff

theorem isUpper_iff {c : Char} : c.isUpper = true ↔ 65 ≤ c.toNat ∧ c.toNat ≤ 90 := by
  rw [isUpper_iff_range, ge_iff_le, UInt32.le_iff_toNat_le, UInt32.le_iff_toNat_le]
  rfl

theorem toNat_toLower (c : Char) :
    c.toLower.toNat = if c.isUpper = true then c.toNat + 32 else c.toNat := by
  by_cases h : c.isUpper = true
  · obtain ⟨_, hle⟩ := isUpper_iff.mp h
    have hlower : c.toLower.toNat = (c.val + 32).toNat :=
      congrArg Char.toNat (dif_pos (isUpper_iff_range.mp h))
    have hlt : c.toNat + 32 < 2 ^ 32 := by omega
    rw [if_pos h, hlower, UInt32.toNat_add]
    exact Nat.mod_eq_of_lt hlt
  · rw [if_neg h]
    exact congrArg Char.toNat (dif_neg (mt isUpper_iff_range.mpr h))

theorem toLower_eq_iff {c d : Char} : c.toLower = d.toLower ↔ SameLetter c d := by
  simp only [SameLetter, ← Char.toNat_inj, toNat_toLower, isUpper_iff]
  split
  · split
    · omega
    · omega
  · split
    · omega
    · omega

namespace Request

theorem headerKey_eq_iff {a b : String} : headerKey a = headerKey b ↔ SameName a b := by
  rw [headerKey, headerKey, String.ofList_inj, ← List.forall₂_eq_eq_eq, List.forall₂_map_left_iff,
    List.forall₂_map_right_iff, SameName]
  simp only [toLower_eq_iff]

/-! ## What was set last -/

/-- A header was never set, or was set to the empty value last. -/
def Unset (hs : List (String × String)) (name : String) : Prop :=
  (∀ h ∈ hs, ¬ SameName h.1 name) ∨ KeyMap.LastOf (SameName · name) hs ""

section
variable {r : Request} {address name value : String} {hs : List (String × String)}

theorem insertHeaders_eq (r : Request) (hs : List (String × String)) :
    r.insertHeaders hs = { r with headers :=
      (hs.map fun h => (headerKey h.1, h.2)).foldl (fun m e => m.insert e.1 e.2) r.headers } := by
  induction hs generalizing r with
  | nil => rfl
  | cons h hs ih => exact ih (r.insertHeader h.1 h.2)

theorem remoteAddress_insertHeaders :
    ((ofAddress address).insertHeaders hs).remoteAddress = address := by
  rw [insertHeaders_eq]
  rfl

theorem get?_insertHeaders :
    ((ofAddress address).insertHeaders hs).headers.get? (headerKey name) = some value ↔
      KeyMap.LastOf (SameName · name) hs value := by
  rw [insertHeaders_eq]
  show (KeyMap.ofList (hs.map fun h => (headerKey h.1, h.2))).get? (headerKey name) = _ ↔ _
  rw [KeyMap.get?_ofList, KeyMap.mem_lasting_iff, KeyMap.lastOf_map]
  simp only [headerKey_eq_iff]

theorem header?_insertHeaders_eq_some :
    ((ofAddress address).insertHeaders hs).header? name = some value ↔
      value ≠ "" ∧ KeyMap.LastOf (SameName · name) hs value := by
  rw [header?, Option.filter_eq_some_iff, get?_insertHeaders, bne_iff_ne, and_comm]

/-- A header that is kept with the empty value is as good as none. -/
theorem header?_eq_none :
    r.header? name = none ↔ ∀ value, r.headers.get? (headerKey name) = some value → value = "" := by
  simp [header?, Option.filter_eq_none_iff]

theorem header?_insertHeaders_eq_none :
    ((ofAddress address).insertHeaders hs).header? name = none ↔ Unset hs name := by
  simp only [header?_eq_none, get?_insertHeaders]
  constructor
  · intro h
    by_cases hset : ∃ e ∈ hs, SameName e.1 name
    · obtain ⟨value, hlast⟩ : ∃ value, KeyMap.LastOf (SameName · name) hs value :=
        KeyMap.exists_lastOf hset
      exact .inr (h value hlast ▸ hlast)
    · exact .inl fun e he hname => hset ⟨e, he, hname⟩
  · rintro (hnone | hempty) value hlast
    · obtain ⟨e, he, hname⟩ := hlast.mem
      exact absurd hname (hnone e he)
    · exact hlast.unique hempty

end

end Request

/-! ## The client -/

namespace AttributeSource

/-- The text that the address of a client is reported as. -/
def reported (address : String) : String := if address = "::1" then "127.0.0.1" else address

/-- The client is the first proxy header that has a value, and the peer only if none
has. -/
theorem sourceIp_eq_some {now : Int} {r : Request} {x : Condition.Value} :
    sourceIp now r = some x ↔
      (∃ before name after value, clientHeaders = before ++ name :: after ∧
        (∀ n ∈ before, r.header? n = none) ∧ r.header? name = some value ∧
        x = .string (reported value)) ∨
      ((∀ n ∈ clientHeaders, r.header? n = none) ∧
        ∃ host, hostPart? r.remoteAddress = some host ∧ x = .string (reported host)) := by
  simp only [sourceIp, firstHeader?, Option.map_eq_some_iff, Option.or_eq_some_iff,
    List.findSome?_eq_some_iff, List.findSome?_eq_none_iff]
  constructor
  · rintro ⟨address, ⟨before, name, after, heq, hvalue, hnone⟩ | ⟨hnone, hhost⟩, rfl⟩
    · exact .inl ⟨before, name, after, address, heq, hnone, hvalue, rfl⟩
    · exact .inr ⟨hnone, address, hhost, rfl⟩
  · rintro (⟨before, name, after, value, heq, hnone, hvalue, rfl⟩ | ⟨hnone, host, hhost, rfl⟩)
    · exact ⟨value, .inl ⟨before, name, after, heq, hvalue, hnone⟩, rfl⟩
    · exact ⟨host, .inr ⟨hnone, hhost⟩, rfl⟩

-- An empty value hides an earlier one of the same name.
example : sourceIp 0 ((Request.ofAddress "[::1]:80").insertHeaders
    [("x-client-ip", "10.0.0.1"), ("X-Real-IP", "10.0.0.2"), ("X-CLIENT-IP", "")]) =
    some (.string "10.0.0.2") := by decide

end AttributeSource

end AccessDecision

import AccessDecision.Proofs.Regex.BracketLocality
import AccessDecision.Proofs.Regex.LiteralText
import Mathlib.Data.List.TakeWhile

/-
  Tokens do not look past the text they stand in

  What stands behind an opening parenthesis is put down as a relation (`Opens`): a name,
  flags, or nothing that belongs to the parenthesis. What a token is by its first
  character is put down as another (`IsToken`).

  What is proved:
    1. `readOpening_eq_ok` and `readToken_eq_ok` — opening parentheses and tokens are
       read exactly so.
    2. `local_readToken` — while blanks count, a token in front of a dollar sign is the
       same token in front of a closing parenthesis or of nothing. The exceptions are a
       last backslash, which takes the next character whatever that is, and a boundary
       in front of a last opening brace, behind which no token can follow
       (`readToken_brace`).
-/

namespace AccessDecision.Regex

/-! ## Opening parentheses -/

/-- What an opening parenthesis and the text behind it are read as, and what is left. -/
inductive Opens (flags : Flags) : List Char → Token → List Char → Prop where
  | group {cs : List Char} : (∀ rest, cs ≠ '?' :: rest) →
      Opens flags cs (.open true none flags) cs
  | named {sign rest name left : List Char} : sign = ['<'] ∨ sign = ['P', '<'] →
      readName rest = .ok (name, left) →
      Opens flags ('?' :: (sign ++ rest)) (.open true (some name) flags) left
  | flagged {rest seen left : List Char} {flags' : Flags} :
      readFlags [] true false flags rest = .ok (flags', seen, ':' :: left) →
      Opens flags ('?' :: rest) (.open false none flags') left
  | setFlags {rest seen left : List Char} {flags' : Flags} :
      readFlags [] true false flags rest = .ok (flags', seen, ')' :: left) → seen ≠ [] →
      Opens flags ('?' :: rest) (.setFlags flags') left

/-- Flags end with a colon or a closing parenthesis. -/
theorem readFlags_end {seen : List Char} {value dangling : Bool} {flags flags' : Flags}
    {cs seen' left : List Char}
    (h : readFlags seen value dangling flags cs = .ok (flags', seen', left)) :
    ∃ rest, left = ':' :: rest ∨ left = ')' :: rest := by
  induction cs generalizing seen value dangling flags with
  | nil => cases h
  | cons c cs ih =>
    rw [readFlags] at h
    split at h
    · rename_i hc
      obtain ⟨_, hok⟩ := Except.ite_error_eq_ok.mp h
      cases hok
      exact ⟨cs, hc.imp (fun hc => by rw [hc]) (fun hc => by rw [hc])⟩
    · split at h
      · split at h
        · exact ih h
        · cases h
      · split at h
        · cases h
        · obtain ⟨_, hok⟩ := Except.ite_error_eq_ok.mp h
          exact ih hok

/-- No flag is a sign of a name or of a look around. -/
theorem readFlags_sign {c : Char} (hc : c = '=' ∨ c = '!' ∨ c = '<' ∨ c = 'P') (flags : Flags)
    (cs : List Char) (r : Flags × List Char × List Char) :
    readFlags [] true false flags (c :: cs) ≠ .ok r := by
  rcases hc with rfl | rfl | rfl | rfl <;> exact nofun

theorem readName_sign {c : Char} (hc : c = '=' ∨ c = '!') (cs : List Char)
    (r : List Char × List Char) : readName (c :: cs) ≠ .ok r := by
  have hstart : isNameChar true c = false := by
    rcases hc with rfl | rfl <;> decide +kernel
  intro h
  have hne : (c != '>') = true := by rcases hc with rfl | rfl <;> decide
  rw [readName, List.takeWhile_cons, if_pos hne] at h
  split at h
  · rename_i heq _
    obtain ⟨rfl, rfl⟩ := List.cons.inj heq
    simp [hstart] at h
  · cases h

theorem readOpening_named {flags : Flags} (h : flags.ignoreBlanks = false)
    {sign rest name left : List Char} (hsign : sign = ['<'] ∨ sign = ['P', '<'])
    (hname : readName rest = .ok (name, left)) :
    readOpening flags ('?' :: (sign ++ rest)) = .ok (.open true (some name) flags, left) := by
  unfold readOpening
  rw [skipBlanks_plain h]
  rcases hsign with rfl | rfl
  · split
    · rename_i heq
      cases heq
    · rename_i heq
      cases heq
    · rename_i heq
      cases heq
      exact absurd hname (readName_sign (.inl rfl) _ _)
    · rename_i heq
      cases heq
      exact absurd hname (readName_sign (.inr rfl) _ _)
    · rename_i heq
      cases heq
    · rename_i heq
      cases heq
      show (readName rest).map _ = _
      rw [hname]
      rfl
    · rename_i hangle heq
      cases heq
      exact absurd rfl (hangle _)
    · rename_i hmark
      exact absurd rfl (hmark _)
  · simp only [List.cons_append, List.nil_append, hname]
    rfl

/-- What flags behind an opening parenthesis come to. -/
def flagsToken : Flags × List Char × List Char → Except SyntaxError (Token × List Char)
  | (flags, _, ':' :: rest) => .ok (.open false none flags, rest)
  | (flags, seen, rest) =>
    if seen.isEmpty then .error .repetitionWithoutItem else .ok (.setFlags flags, rest.tail)

theorem readOpening_flags {flags : Flags} (h : flags.ignoreBlanks = false) {rest : List Char}
    {r : Flags × List Char × List Char} (hflags : readFlags [] true false flags rest = .ok r) :
    readOpening flags ('?' :: rest) = flagsToken r := by
  have hsign : ∀ {c : Char} {more : List Char}, c = '=' ∨ c = '!' ∨ c = '<' ∨ c = 'P' →
      rest ≠ c :: more := fun hc heq => readFlags_sign hc _ _ _ (heq ▸ hflags)
  unfold readOpening
  rw [skipBlanks_plain h]
  split
  all_goals rename_i heq
  all_goals try
    cases heq
    exact absurd rfl (hsign (by simp))
  · cases heq
    rw [hflags]
    obtain ⟨flags', seen, left⟩ := r
    obtain ⟨more, rfl | rfl⟩ := readFlags_end hflags
    · rfl
    · rfl
  · exact absurd rfl (heq _)

theorem readOpening_eq_ok {flags : Flags} (h : flags.ignoreBlanks = false) {cs left : List Char}
    {t : Token} : readOpening flags cs = .ok (t, left) ↔ Opens flags cs t left := by
  constructor
  · intro hread
    unfold readOpening at hread
    rw [skipBlanks_plain h] at hread
    split at hread
    · cases hread
    · cases hread
    · cases hread
    · cases hread
    · obtain ⟨⟨name, rest⟩, hname, hok⟩ := Except.map_eq_ok.mp hread
      cases hok
      exact .named (.inr rfl) hname
    · obtain ⟨⟨name, rest⟩, hname, hok⟩ := Except.map_eq_ok.mp hread
      cases hok
      exact .named (.inl rfl) hname
    · split at hread
      · cases hread
      · rename_i hflags
        cases hread
        exact .flagged hflags
      · rename_i hcolon hflags
        obtain ⟨hseen, hok⟩ := Except.ite_error_eq_ok.mp hread
        obtain ⟨left', rfl | rfl⟩ := readFlags_end hflags
        · exact absurd rfl (hcolon _)
        · cases hok
          exact .setFlags hflags fun hnil => hseen (List.isEmpty_iff.mpr hnil)
    · rename_i hmark
      cases hread
      exact .group fun rest heq => hmark rest heq
  · intro hopens
    cases hopens with
    | group hmark =>
      unfold readOpening
      rw [skipBlanks_plain h]
      split
      all_goals first | rfl | exact absurd rfl (hmark _)
    | named hsign hname => exact readOpening_named h hsign hname
    | flagged hflags => exact readOpening_flags h hflags
    | setFlags hflags hseen =>
      rw [readOpening_flags h hflags]
      exact if_neg fun hnil => hseen (List.isEmpty_iff.mp hnil)

/-- Whether a group may have the name. -/
def isGroupName : List Char → Bool
  | [] => false
  | c :: more => isNameChar true c && more.all (isNameChar false)

theorem readName_append {name : List Char} (hname : '>' ∉ name) (rest : List Char) :
    readName (name ++ '>' :: rest) =
      if isGroupName name then .ok (name, rest) else .error .groupNameInvalid := by
  have hplain : ∀ c ∈ name, (c != '>') = true := fun c hc => bne_iff_ne.mpr fun h => hname (h ▸ hc)
  rw [readName, List.takeWhile_append_of_pos hplain, List.dropWhile_append_of_pos hplain]
  cases name <;> simp [isGroupName]

theorem local_readName : Local readName := by
  intro cs name r hread
  by_cases hangle : '>' ∈ cs
  · obtain ⟨name', more, rfl, hname⟩ := List.eq_append_cons_of_mem hangle
    rw [List.append_assoc, List.cons_append, readName_append hname] at hread
    obtain ⟨hvalid, hok⟩ := Except.ite_else_error_eq_ok.mp hread
    cases hok
    refine ⟨more, rfl, ⟨name ++ ['>'], by simp⟩, fun T _ => ?_⟩
    rw [List.append_assoc, List.cons_append, readName_append hname, if_pos hvalid]
  · -- Without a closing angle bracket the name does not end.
    have hplain : ∀ c ∈ cs ++ ['$'], (c != '>') = true := by
      intro c hc
      rcases List.mem_append.mp hc with hc | hc
      · exact bne_iff_ne.mpr fun h => hangle (h ▸ hc)
      · rw [List.mem_singleton.mp hc]
        decide
    have hdrop : (cs ++ ['$']).dropWhile (· != '>') = [] := List.dropWhile_eq_nil_iff.mpr hplain
    rw [readName, hdrop] at hread
    split at hread
    · rename_i heq
      cases heq
    · cases hread

theorem readFlags_append {seen : List Char} {value dangling : Bool} {flags flags' : Flags}
    {cs seen' r : List Char}
    (h : readFlags seen value dangling flags (cs ++ ['$']) = .ok (flags', seen', r)) :
    ∃ mid, r = mid ++ ['$'] ∧ mid <:+ cs ∧
      ∀ T, readFlags seen value dangling flags (cs ++ T) = .ok (flags', seen', mid ++ T) := by
  induction cs generalizing seen value dangling flags with
  | nil => cases value <;> cases h
  | cons c cs ih =>
    have hskip : ∀ {mid : List Char}, mid <:+ cs → mid <:+ c :: cs := fun hmid =>
      hmid.trans (List.suffix_cons c cs)
    rw [List.cons_append, readFlags] at h
    split at h
    · rename_i hc
      obtain ⟨hdangling, hok⟩ := Except.ite_error_eq_ok.mp h
      cases hok
      refine ⟨c :: cs, rfl, List.suffix_refl _, fun T => ?_⟩
      rw [List.cons_append, readFlags, if_pos hc, if_neg hdangling]
    · rename_i hc
      split at h
      · rename_i hhyphen
        obtain ⟨hvalue, hmore⟩ := Except.ite_else_error_eq_ok.mp h
        obtain ⟨mid, hmid, hsuffix, htakes⟩ := ih hmore
        refine ⟨mid, hmid, hskip hsuffix, fun T => ?_⟩
        rw [List.cons_append, readFlags, if_neg hc, if_pos hhyphen, if_pos hvalue]
        exact htakes T
      · rename_i hhyphen
        split at h
        · cases h
        · rename_i flags₁ hset
          obtain ⟨hseen, hmore⟩ := Except.ite_error_eq_ok.mp h
          obtain ⟨mid, hmid, hsuffix, htakes⟩ := ih hmore
          refine ⟨mid, hmid, hskip hsuffix, fun T => ?_⟩
          rw [List.cons_append, readFlags, if_neg hc, if_neg hhyphen, hset]
          exact (if_neg hseen).trans (htakes T)

/-- The sign behind the flags stands in the text, if it is no dollar sign. -/
theorem readFlags_sign_append {flags flags' : Flags} {c : Char} {cs rest seen left : List Char}
    (h : readFlags [] true false flags rest = .ok (flags', seen, c :: left)) (hc : c ≠ '$')
    (htext : cs ++ ['$'] = '?' :: rest) :
    ∃ cs' mid, cs = '?' :: cs' ∧ left = mid ++ ['$'] ∧ mid <:+ '?' :: cs' ∧
      ∀ T, readFlags [] true false flags (cs' ++ T) = .ok (flags', seen, c :: (mid ++ T)) := by
  cases cs with
  | nil => cases htext
  | cons d cs =>
    obtain ⟨rfl, rfl⟩ := List.cons.inj htext
    obtain ⟨mid, hmid, hsuffix, htakes⟩ := readFlags_append h
    cases mid with
    | nil => exact absurd (List.cons.inj hmid).1 hc
    | cons d mid =>
      obtain ⟨rfl, rfl⟩ := List.cons.inj hmid
      have hleft : mid <:+ cs := (List.suffix_cons _ _).trans hsuffix
      exact ⟨cs, mid, rfl, rfl, hleft.trans (List.suffix_cons _ _), htakes⟩

/-- A text that starts with what does not hold its last character. -/
theorem eq_of_append_singleton_eq {d : Char} {cs rest : List Char} (front : List Char)
    (h : cs ++ [d] = front ++ rest) (hd : d ∉ front) :
    ∃ more, cs = front ++ more ∧ rest = more ++ [d] := by
  rcases List.append_eq_append_iff.mp h with ⟨tail, rfl, htail⟩ | ⟨more, rfl, rfl⟩
  · cases tail with
    | nil => exact ⟨[], by simp, by simpa using htail.symm⟩
    | cons c tail =>
      obtain ⟨rfl, _⟩ := List.cons.inj htail
      exact absurd (by simp) hd
  · exact ⟨more, rfl, rfl⟩

theorem local_readOpening {flags : Flags} (h : flags.ignoreBlanks = false) :
    Local (readOpening flags) := by
  intro cs t r hread
  have hopens := (readOpening_eq_ok h).mp hread
  have hlocal : ∃ mid, r = mid ++ ['$'] ∧ mid <:+ cs ∧
      ∀ T, Ends T → Opens flags (cs ++ T) t (mid ++ T) := by
    generalize htext : cs ++ ['$'] = text at hopens
    cases hopens with
    | group hmark =>
      refine ⟨cs, htext.symm, List.suffix_refl cs, fun T hT => .group fun rest heq => ?_⟩
      cases cs with
      | nil => exact hT.not_head (by decide) (by decide) rest heq
      | cons c cs =>
        obtain ⟨rfl, _⟩ := List.cons.inj heq
        exact hmark (cs ++ ['$']) htext.symm
    | @named sign rest name _ hsign hname =>
      -- The sign and the name stand in the text, since neither holds a dollar sign.
      have hdollar : '$' ∉ '?' :: sign := by
        rcases hsign with rfl | rfl <;> decide
      obtain ⟨more, rfl, rfl⟩ := eq_of_append_singleton_eq ('?' :: sign) htext hdollar
      obtain ⟨mid, hmid, hsuffix, htakes⟩ := local_readName _ _ _ hname
      refine ⟨mid, hmid, hsuffix.trans ⟨'?' :: sign, rfl⟩, fun T hT => ?_⟩
      have htext : '?' :: sign ++ more ++ T = '?' :: (sign ++ (more ++ T)) := by simp
      rw [htext]
      exact .named hsign (htakes T hT)
    | flagged hflags =>
      obtain ⟨cs', mid, rfl, rfl, hsuffix, htakes⟩ :=
        readFlags_sign_append hflags (by decide) htext
      exact ⟨mid, rfl, hsuffix, fun T _ => .flagged (htakes T)⟩
    | setFlags hflags hseen =>
      obtain ⟨cs', mid, rfl, rfl, hsuffix, htakes⟩ :=
        readFlags_sign_append hflags (by decide) htext
      exact ⟨mid, rfl, hsuffix, fun T _ => .setFlags (htakes T) hseen⟩
  obtain ⟨mid, hmid, hsuffix, htakes⟩ := hlocal
  exact ⟨mid, hmid, hsuffix, fun T hT => (readOpening_eq_ok h).mpr (htakes T hT)⟩

/-! ## Tokens -/

/-- What stands behind a repetition sign is read no further than the sign that makes
the repetition lazy. -/
theorem local_times (min : Nat) (max : Option Nat) :
    Local fun rest => .ok (Token.times min max, skipLazy rest) := by
  intro cs t r h
  obtain ⟨mid, hsuffix, hlazy⟩ := skipLazy_append cs
  simp only [hlazy _ .dollar] at h
  cases h
  exact ⟨mid, rfl, hsuffix, fun T hT => by simp only [hlazy T hT]⟩

theorem boundary_of_ofChar {c : Char} (h : Escape.ofChar c = .boundary) : c = 'b' := by
  unfold Escape.ofChar at h
  split at h
  · cases h
  · split at h
    · cases h
    · split at h <;> first | rfl | cases h

/-- The item that an escape sequence is read as. -/
def Escaped.token (flags : Flags) : Escaped → Token
  | .char c => .item (.one (charSet flags c)) 0
  | .set s => .item (.one s) 0
  | .look l => .item (.look l) 0

theorem readToken_escape (flags : Flags) (rest : List Char) :
    readToken flags ('\\' :: rest) =
      (readEscape flags rest).map fun r => (r.1.token flags, r.2) := by
  rw [readToken]
  cases readEscape flags rest with
  | error e => rfl
  | ok r =>
    obtain ⟨a, rest⟩ := r
    cases a <;> rfl

theorem readToken_bracket (flags : Flags) (rest : List Char) :
    readToken flags ('[' :: rest) =
      (readBracketBody flags rest).map fun r => (.item (.one r.1.set) r.1.depth, r.2) := by
  rw [readToken, readBracketBody]
  cases readBracketStart flags rest with
  | error e => rfl
  | ok r =>
    show (readBracket flags (r.2.length + 1) r.1 r.2 >>= _) =
      (readBracket flags (r.2.length + 1) r.1 r.2).map _
    cases readBracket flags (r.2.length + 1) r.1 r.2 <;> rfl

/-- How often the item before a sign of repetition is repeated. -/
def repetition? : Char → Option (Nat × Option Nat)
  | '?' => some (0, some 1)
  | '*' => some (0, none)
  | '+' => some (1, none)
  | _ => none

/-- The characters that do not stand for themselves at the start of a token. -/
def tokenSigns : List Char :=
  ['\\', '[', '(', ')', '|', '\x7b', '?', '*', '+', '.', '^', '$']

/-- What the front of a text is read as, by its first character, and what is left. -/
inductive IsToken (flags : Flags) : List Char → Token → List Char → Prop where
  | escape {a : Escaped} {rest left : List Char} : readEscape flags rest = .ok (a, left) →
      IsToken flags ('\\' :: rest) (a.token flags) left
  | bracket {x : SetItem} {rest left : List Char} : readBracketBody flags rest = .ok (x, left) →
      IsToken flags ('[' :: rest) (.item (.one x.set) x.depth) left
  | opening {t : Token} {rest left : List Char} : readOpening flags rest = .ok (t, left) →
      IsToken flags ('(' :: rest) t left
  | close (rest : List Char) : IsToken flags (')' :: rest) .close rest
  | bar (rest : List Char) : IsToken flags ('|' :: rest) .bar rest
  | counts {min : Nat} {max : Option Nat} {rest left : List Char} :
      readCounts flags rest = .ok ((min, max), left) →
      IsToken flags ('\x7b' :: rest) (.times min max) left
  | sign {c : Char} {min : Nat} {max : Option Nat} (rest : List Char) :
      repetition? c = some (min, max) → IsToken flags (c :: rest) (.times min max) (skipLazy rest)
  | dot (rest : List Char) : flags.unicode = true →
      IsToken flags ('.' :: rest) (.item (.one (dotSet flags)) 0) rest
  | start (rest : List Char) : IsToken flags ('^' :: rest) (.item (.look (startLook flags)) 0) rest
  | «end» (rest : List Char) : IsToken flags ('$' :: rest) (.item (.look (endLook flags)) 0) rest
  | literal {c : Char} (rest : List Char) : c ∉ tokenSigns →
      IsToken flags (c :: rest) (.item (.one (charSet flags c)) 0) rest

theorem readToken_literal (flags : Flags) {c : Char} (hc : c ∉ tokenSigns) (rest : List Char) :
    readToken flags (c :: rest) = .ok (.item (.one (charSet flags c)) 0, rest) := by
  unfold readToken
  split <;> simp_all [tokenSigns]

theorem readToken_eq_ok {flags : Flags} {cs left : List Char} {t : Token} :
    readToken flags cs = .ok (t, left) ↔ IsToken flags cs t left := by
  constructor
  · intro hread
    cases cs with
    | nil => cases hread
    | cons c rest =>
      by_cases hc : c ∈ tokenSigns
      · simp only [tokenSigns, List.mem_cons, List.not_mem_nil, or_false] at hc
        rcases hc with rfl | rfl | rfl | rfl | rfl | rfl | rfl | rfl | rfl | rfl | rfl | rfl
        · rw [readToken_escape] at hread
          obtain ⟨⟨a, rest⟩, ha, hok⟩ := Except.map_eq_ok.mp hread
          cases hok
          exact .escape ha
        · rw [readToken_bracket] at hread
          obtain ⟨⟨x, rest⟩, hx, hok⟩ := Except.map_eq_ok.mp hread
          cases hok
          exact .bracket hx
        · exact .opening hread
        · cases hread
          exact .close _
        · cases hread
          exact .bar _
        · obtain ⟨⟨x, rest⟩, hx, hok⟩ := Except.map_eq_ok.mp hread
          cases hok
          exact .counts hx
        · cases hread
          exact .sign _ rfl
        · cases hread
          exact .sign _ rfl
        · cases hread
          exact .sign _ rfl
        · obtain ⟨hunicode, hok⟩ := Except.ite_else_error_eq_ok.mp hread
          cases hok
          exact .dot _ hunicode
        · cases hread
          exact .start _
        · cases hread
          exact .end _
      · rw [readToken_literal flags hc] at hread
        cases hread
        exact .literal _ hc
  · intro htoken
    cases htoken with
    | escape ha =>
      rw [readToken_escape, ha]
      rfl
    | bracket hx =>
      rw [readToken_bracket, hx]
      rfl
    | opening ht => exact ht
    | close rest => rfl
    | bar rest => rfl
    | counts hx => exact Except.map_eq_ok.mpr ⟨_, hx, rfl⟩
    | sign rest hsign =>
      unfold repetition? at hsign
      split at hsign
      all_goals cases hsign
      all_goals rfl
    | dot rest hunicode => exact if_pos hunicode
    | start rest => rfl
    | «end» rest => rfl
    | literal rest hc => exact readToken_literal flags hc _

/-- Behind its first character a token is read alike whatever stands behind the text,
unless it is a backslash that takes what stands there, or a boundary in front of a last
opening brace. -/
theorem local_readToken {flags : Flags} (h : flags.ignoreBlanks = false) {c : Char}
    {cs : List Char} (hlast : c = '\\' → cs ≠ []) (hbrace : c = '\\' → cs ≠ ['b', '\x7b']) :
    LocalAt (fun rest => readToken flags (c :: rest)) cs := by
  by_cases hc : c ∈ tokenSigns
  · simp only [tokenSigns, List.mem_cons, List.not_mem_nil, or_false] at hc
    rcases hc with rfl | rfl | rfl | rfl | rfl | rfl | rfl | rfl | rfl | rfl | rfl | rfl
    · -- A backslash.
      cases cs with
      | nil => exact absurd rfl (hlast rfl)
      | cons d cs =>
        refine LocalAt.congr ((local_readEscape h d fun hd hcs => ?_).map (Escaped.token flags))
          fun T => readToken_escape flags _
        exact hbrace rfl (by rw [boundary_of_ofChar hd, hcs])
    · exact ((local_readBracketBody h cs).map fun x => .item (.one x.set) x.depth).congr
        fun T => readToken_bracket flags _
    · exact (local_readOpening h cs).congr fun T => rfl
    · exact (local_ok .close cs).congr fun T => rfl
    · exact (local_ok .bar cs).congr fun T => rfl
    · refine ((local_readCounts cs).map fun x => .times x.1 x.2).congr fun T => ?_
      show (readCounts flags (cs ++ T)).map _ = _
      rw [readCounts_plain h]
    · exact (local_times 0 (some 1) cs).congr fun T => rfl
    · exact (local_times 0 none cs).congr fun T => rfl
    · exact (local_times 1 none cs).congr fun T => rfl
    · exact (Local.ite _ (local_ok _) (local_error .notText) cs).congr fun T => rfl
    · exact (local_ok _ cs).congr fun T => rfl
    · exact (local_ok _ cs).congr fun T => rfl
  · exact (local_ok _ cs).congr fun T => readToken_literal flags hc _

/-- Behind a last opening brace there are no counts. -/
theorem readToken_brace {flags : Flags} (h : flags.ignoreBlanks = false) (r : Token × List Char) :
    readToken flags ['\x7b', '$'] ≠ .ok r := by
  intro hread
  have hcounts : (readCounts flags ['$']).map (fun r => (Token.times r.1.1 r.1.2, r.2)) = .ok r :=
    hread
  rw [readCounts_plain h] at hcounts
  cases hcounts

end AccessDecision.Regex

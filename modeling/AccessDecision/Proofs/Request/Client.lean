import AccessDecision.Proofs.Condition.Relaxation
import AccessDecision.Proofs.Request.Peer
import AccessDecision.Proofs.Request.Registrations
import Mathlib.Data.List.DropRight

/-
  The client of any request

  The client is either a text that stands in the request, in a proxy header or before the
  port of the peer, or the address of a peer whose text is a socket address. Such an
  address is written anew, so it has one spelling. All other texts are taken as they
  stand, but for the brackets around the host of a peer.

  What is proved:
    1. `sourceIp_eq_some_iff` — where the client comes from.
    2. `sourceIp_eq_none` and `sourceIp_eq_empty` — a peer with nothing before its port is
       no client, but one with only brackets there is a client without a name.
    3. `client_missing_or_named` — so the context lacks the key of the client, or holds a
       text for it that is empty for such peers only. `bracketed_peer_is_empty` is one.
    4. `loopback_unless_spelled_out` — the long loopback address is reported as the short
       one for every socket address, and for a text taken as it stands if that is its
       shortest spelling. `long_loopback_stays` is another spelling.
-/

namespace AccessDecision

open Network (Address SocketText)

namespace AttributeSource

/-- What stands before the last colon of a text, if anything does. -/
def BeforePort (text : String) (host : List Char) : Prop :=
  host ≠ [] ∧ ∃ port, text.toList = host ++ ':' :: port ∧ ':' ∉ port

/-- A host without the opening brackets in front and the closing ones behind. -/
def unbracketed (host : List Char) : List Char :=
  (host.dropWhile (· == '[')).rdropWhile (· == ']')

/-- Opening brackets, and closing ones behind them. -/
def brackets (opening closing : Nat) : List Char :=
  List.replicate opening '[' ++ List.replicate closing ']'

/-- Nothing but brackets stands before the last colon. -/
def Hostless (text : String) : Prop :=
  ∃ opening closing, BeforePort text (brackets opening closing)

/-- A text of the request that the client is, as it stands there: the first proxy header
with a value, or without one the host of a peer that is no socket address. -/
inductive Verbatim (r : Request) : String → Prop where
  | header {before after : List String} {name value : String} :
      clientHeaders = before ++ name :: after → (∀ earlier ∈ before, r.header? earlier = none) →
      r.header? name = some value → Verbatim r value
  | peer {host : List Char} : r.Unproxied → (∀ a, ¬ SocketText r.remoteAddress.toList a) →
      BeforePort r.remoteAddress host → Verbatim r (String.ofList (unbracketed host))

/-! ## What stands before the port -/

section
variable {text : String} {host host' : List Char} {a : Address}

theorem BeforePort.unique (h : BeforePort text host) (h' : BeforePort text host') :
    host = host' := by
  obtain ⟨_, port, heq, hport⟩ := h
  obtain ⟨_, port', heq', hport'⟩ := h'
  have hcut := (Text.cutAtLast_eq_some.mpr ⟨heq, hport⟩).symm.trans
    (Text.cutAtLast_eq_some.mpr ⟨heq', hport'⟩)
  exact congrArg Prod.fst (Option.some.inj hcut)

theorem mem_brackets {opening closing : Nat} {c : Char} (h : c ∈ brackets opening closing) :
    c = '[' ∨ c = ']' :=
  (List.mem_append.mp h).imp List.eq_of_mem_replicate List.eq_of_mem_replicate

/-- Only brackets leave nothing when they are taken off. -/
theorem unbracketed_eq_nil :
    unbracketed host = [] ↔ ∃ opening closing, host = brackets opening closing := by
  simp only [unbracketed, List.rdropWhile_eq_nil_iff, beq_iff_eq]
  apply Iff.intro
  · intro h
    refine ⟨(host.takeWhile (· == '[')).length, (host.dropWhile (· == '[')).length, ?_⟩
    have hopening : ∀ c ∈ host.takeWhile (· == '['), c = '[' := fun c hc =>
      beq_iff_eq.mp (List.all_eq_true.mp List.all_takeWhile c hc)
    rw [brackets, ← List.eq_replicate_of_mem hopening, ← List.eq_replicate_of_mem h,
      List.takeWhile_append_dropWhile]
  · rintro ⟨opening, closing, rfl⟩ c hc
    rw [brackets, List.dropWhile_append_of_pos] at hc
    · exact List.eq_of_mem_replicate ((List.dropWhile_suffix _).subset hc)
    · intro c hc
      exact beq_iff_eq.mpr (List.eq_of_mem_replicate hc)

/-- Before the port of a socket address stands an address, so something else than
brackets. -/
theorem beforePort_of_socketText (h : SocketText text.toList a) :
    ∃ host, BeforePort text host ∧ ∃ c ∈ host, c ≠ '[' ∧ c ≠ ']' := by
  -- A port has digits only, so the colon in front of it is the last one of the text.
  have hcolon : ∀ {service : List Char} {port : Nat}, Text.WritesNat service port →
      ':' ∉ service := fun hservice hm => by cases hservice.isDigit.2 ':' hm
  generalize htext : text.toList = cs at h
  cases h with
  | @short host service _ port hread hservice _ =>
    obtain ⟨os, hos, _⟩ := Option.map_eq_some_iff.mp hread
    have hne : host ≠ [] := by
      rintro rfl
      cases hos
    obtain ⟨c, hc⟩ := List.exists_mem_of_ne_nil host hne
    refine ⟨host, ⟨hne, service, htext, hcolon hservice⟩, c, hc, ?_⟩
    apply And.intro
    · rintro rfl
      exact absurd (Network.digit_of_octets? hos _ hc) (by decide)
    · rintro rfl
      exact absurd (Network.digit_of_octets? hos _ hc) (by decide)
  | @long host service _ port hread hservice _ =>
    have hne : host ≠ [] := by
      rintro rfl
      cases hread
    obtain ⟨c, hc⟩ := List.exists_mem_of_ne_nil host hne
    refine ⟨'[' :: (host ++ [']']), ⟨by simp, service, by simp [htext], hcolon hservice⟩,
      c, by simp [hc], ?_⟩
    apply And.intro
    · rintro rfl
      exact Network.not_mem_of_readV6? hread (by decide) hc
    · rintro rfl
      exact Network.not_mem_of_readV6? hread (by decide) hc
  | @withScope host scope service _ zone port _ _ _ hservice _ =>
    exact ⟨'[' :: ((host ++ '%' :: scope) ++ [']']),
      ⟨by simp, service, by simp [htext], hcolon hservice⟩, '%', by simp, by decide⟩

theorem not_socketText_of_hostless (h : Hostless text) : ¬ SocketText text.toList a := by
  intro hsocket
  obtain ⟨opening, closing, hbefore⟩ := h
  obtain ⟨host, hhost, c, hc, hopening, hclosing⟩ := beforePort_of_socketText hsocket
  rw [hhost.unique hbefore] at hc
  rcases mem_brackets hc with hbracket | hbracket
  · exact hopening hbracket
  · exact hclosing hbracket

/-! ## Where the client comes from -/

theorem hostPart?_of_beforePort (hsocket : ∀ a, ¬ SocketText text.toList a)
    (hhost : BeforePort text host) : hostPart? text = some (String.ofList (unbracketed host)) := by
  obtain ⟨hne, port, heq, hport⟩ := hhost
  have hnone : Network.socketHost? text = none :=
    Option.eq_none_iff_forall_ne_some.mpr fun a ha => hsocket a (Network.socketHost?_eq_some.mp ha)
  have hcut : Text.cutAtLast ':' text.toList = some (host, port) :=
    Text.cutAtLast_eq_some.mpr ⟨heq, hport⟩
  simp only [hostPart?, hnone, hcut, List.isEmpty_eq_false_iff.mpr hne]
  rfl

theorem hostPart?_eq_none : hostPart? text = none ↔ ∀ host, ¬ BeforePort text host := by
  apply Iff.intro
  · intro hnone host hhost
    have hsocket : ∀ a, ¬ SocketText text.toList a := fun a ha => by
      rw [hostPart?_of_socketText ha] at hnone
      cases hnone
    rw [hostPart?_of_beforePort hsocket hhost] at hnone
    cases hnone
  · intro hnone
    have hsocket : Network.socketHost? text = none := by
      rw [Option.eq_none_iff_forall_ne_some]
      intro a ha
      obtain ⟨host, hhost, _⟩ := beforePort_of_socketText (Network.socketHost?_eq_some.mp ha)
      exact hnone host hhost
    rw [hostPart?, hsocket]
    cases hcut : Text.cutAtLast ':' text.toList with
    | none => rfl
    | some parts =>
      obtain ⟨heq, hport⟩ := Text.cutAtLast_eq_some.mp hcut
      have hempty : parts.1 = [] := by
        apply Decidable.not_not.mp
        intro hne
        exact hnone parts.1 ⟨hne, parts.2, heq, hport⟩
      simp only [hempty]
      rfl

theorem hostPart?_eq_some {name : String} : hostPart? text = some name ↔
    (∃ a, SocketText text.toList a ∧ name = a.text) ∨
      ((∀ a, ¬ SocketText text.toList a) ∧
        ∃ host, BeforePort text host ∧ name = String.ofList (unbracketed host)) := by
  by_cases hsocket : ∃ a, SocketText text.toList a
  · obtain ⟨a, ha⟩ := hsocket
    rw [hostPart?_of_socketText ha, Option.some.injEq, eq_comm]
    apply Iff.intro
    · rintro rfl
      exact .inl ⟨a, ha, rfl⟩
    · rintro (⟨b, hb, rfl⟩ | ⟨hnone, _⟩)
      · have hsame := (hostPart?_of_socketText hb).symm.trans (hostPart?_of_socketText ha)
        exact Option.some.inj hsame
      · exact absurd ha (hnone a)
  · have hnone : ∀ a, ¬ SocketText text.toList a := fun a ha => hsocket ⟨a, ha⟩
    by_cases hhost : ∃ host, BeforePort text host
    · obtain ⟨host, hhost⟩ := hhost
      rw [hostPart?_of_beforePort hnone hhost, Option.some.injEq, eq_comm]
      apply Iff.intro
      · rintro rfl
        exact .inr ⟨hnone, host, hhost, rfl⟩
      · rintro (⟨b, hb, _⟩ | ⟨_, host', hhost', rfl⟩)
        · exact absurd hb (hnone b)
        · rw [hhost'.unique hhost]
    · rw [hostPart?_eq_none.mpr fun host h => hhost ⟨host, h⟩]
      apply Iff.intro
      · intro h
        cases h
      · rintro (⟨b, hb, _⟩ | ⟨_, host, h, _⟩)
        · exact absurd hb (hnone b)
        · exact absurd ⟨host, h⟩ hhost

end

section
variable {r : Request} {now : Int} {x : Condition.Value} {text : String}

theorem unproxied_iff : r.Unproxied ↔ ∀ name ∈ clientHeaders, r.header? name = none := by
  simp only [Request.Unproxied, Request.header?_eq_none]

/-- The client is a text as it stands in the request, or the address of a socket
address. -/
theorem sourceIp_eq_some_iff : sourceIp now r = some x ↔
    (∃ text, Verbatim r text ∧ x = .string (reported text)) ∨
      (r.Unproxied ∧ ∃ a, SocketText r.remoteAddress.toList a ∧
        x = .string (reported a.text)) := by
  rw [sourceIp_eq_some]
  simp only [hostPart?_eq_some, ← unproxied_iff]
  apply Iff.intro
  · rintro (⟨before, name, after, value, heq, hbefore, hvalue, rfl⟩ |
      ⟨hunproxied, host, ⟨a, hsocket, rfl⟩ | ⟨hsocket, cs, hcs, rfl⟩, rfl⟩)
    · exact .inl ⟨value, .header heq hbefore hvalue, rfl⟩
    · exact .inr ⟨hunproxied, a, hsocket, rfl⟩
    · exact .inl ⟨_, .peer hunproxied hsocket hcs, rfl⟩
  · rintro (⟨text, htext, rfl⟩ | ⟨hunproxied, a, hsocket, rfl⟩)
    · cases htext with
      | header heq hbefore hvalue => exact .inl ⟨_, _, _, _, heq, hbefore, hvalue, rfl⟩
      | peer hunproxied hsocket hhost =>
        exact .inr ⟨hunproxied, _, .inr ⟨hsocket, _, hhost, rfl⟩, rfl⟩
    · exact .inr ⟨hunproxied, _, .inl ⟨a, hsocket, rfl⟩, rfl⟩

/-- There is no client if no proxy names one and nothing stands before the port of the
peer. -/
theorem sourceIp_eq_none :
    sourceIp now r = none ↔ r.Unproxied ∧ ∀ host, ¬ BeforePort r.remoteAddress host := by
  rw [sourceIp, Option.map_eq_none_iff, Option.or_eq_none_iff, hostPart?_eq_none, unproxied_iff,
    firstHeader?, List.findSome?_eq_none_iff]

theorem reported_ne_empty (h : text ≠ "") : reported text ≠ "" := by
  rw [reported]
  split
  · decide
  · exact h

theorem value_ne_empty {name value : String} (h : r.header? name = some value) : value ≠ "" := by
  simpa using (Option.filter_eq_some_iff.mp h).2

theorem text_ne_empty (a : Address) : a.text ≠ "" := by
  intro h
  have hread := Address.ofText?_text a
  rw [h] at hread
  cases hread

/-- The client is without a name if no proxy names one and nothing but brackets stands
before the port of the peer. -/
theorem sourceIp_eq_empty :
    sourceIp now r = some (.string "") ↔ r.Unproxied ∧ Hostless r.remoteAddress := by
  rw [sourceIp_eq_some_iff]
  simp only [Json.Scalar.string.injEq]
  apply Iff.intro
  · rintro (⟨text, htext, hempty⟩ | ⟨_, a, _, hempty⟩)
    · have hnil : text = "" := Decidable.not_not.mp fun hne => reported_ne_empty hne hempty.symm
      cases htext with
      | header _ _ hvalue => exact absurd hnil (value_ne_empty hvalue)
      | @peer host hunproxied _ hhost =>
        rw [String.ofList_eq_empty_iff] at hnil
        obtain ⟨opening, closing, rfl⟩ := unbracketed_eq_nil.mp hnil
        exact ⟨hunproxied, opening, closing, hhost⟩
    · exact absurd hempty.symm (reported_ne_empty (text_ne_empty a))
  · rintro ⟨hunproxied, opening, closing, hhost⟩
    refine .inl ⟨_, .peer hunproxied (fun a => ?_) hhost, ?_⟩
    · exact not_socketText_of_hostless ⟨opening, closing, hhost⟩
    · rw [unbracketed_eq_nil.mpr ⟨opening, closing, rfl⟩]
      decide

end

end AttributeSource

/-! ## A client that is missing -/

theorem ConditionSet.evaluate_of_missing {condition : Condition} {context : Context} {key : String}
    (hnames : condition.Names key) (hmissing : context.get? key = none) :
    (ConditionSet.ofCondition condition).evaluate context = false := by
  obtain ⟨name, attributes, texts, hname, hkey⟩ := hnames
  rw [← Bool.not_eq_true, ConditionSet.evaluate, List.all_eq_true, Condition.blocks_hold]
  intro hholds
  obtain ⟨_, _, hattributes⟩ := hholds name attributes hname
  obtain ⟨x, hx, _⟩ := hattributes key texts hkey
  rw [hmissing] at hx
  cases hx

open AttributeSource (BeforePort Hostless Verbatim sourceIp)

/-- The client of a request. It is a text, and an empty one exactly if each proxy header
is absent or empty and nothing but brackets stands before the last colon of the peer. So
in all other requests the context lacks the key of the client, or holds a text for it that
is not empty. It lacks the key exactly if there is nothing before that colon or no colon,
and then no condition holds that names the key. -/
theorem client_missing_or_named (r : Request) (now : Int) :
    (∀ x, sourceIp now r = some x → ∃ text, x = .string text) ∧
    (sourceIp now r = some (.string "") ↔ r.Unproxied ∧ Hostless r.remoteAddress) ∧
    (sourceIp now r = none ↔ r.Unproxied ∧ ∀ host, ¬ BeforePort r.remoteAddress host) ∧
    ∀ (registry : Registry) (times : String → Int),
      registry.get? Registry.sourceIpKey = some sourceIp →
      let client := (registry.contextAt times r).get? Registry.sourceIpKey
      client = sourceIp now r ∧
      (¬ (r.Unproxied ∧ Hostless r.remoteAddress) ↔
        client = none ∨ ∃ text, text ≠ "" ∧ client = some (.string text)) ∧
      (client = none → ∀ condition : Condition, condition.Names Registry.sourceIpKey →
        (ConditionSet.ofCondition condition).evaluate (registry.contextAt times r) = false) := by
  have htext : ∀ x, sourceIp now r = some x → ∃ text, x = .string text := by
    intro x hx
    rcases AttributeSource.sourceIp_eq_some_iff.mp hx with ⟨_, _, rfl⟩ | ⟨_, _, _, rfl⟩
    · exact ⟨_, rfl⟩
    · exact ⟨_, rfl⟩
  refine ⟨htext, AttributeSource.sourceIp_eq_empty, AttributeSource.sourceIp_eq_none, ?_⟩
  intro registry times hsource client
  have hclient : client = sourceIp now r := by
    apply Option.ext
    intro value
    simp only [client, Registry.get?_contextAt, hsource, Option.some.injEq, exists_eq_left']
    -- The client does not depend on the time.
    rfl
  refine ⟨hclient, ?_, fun hmissing condition hnames => ?_⟩
  · have hempty : sourceIp now r = some (.string "") ↔ r.Unproxied ∧ Hostless r.remoteAddress :=
      AttributeSource.sourceIp_eq_empty
    rw [hclient, ← hempty]
    cases hx : sourceIp now r with
    | none => simp
    | some x =>
      obtain ⟨text, rfl⟩ := htext x hx
      simp [eq_comm]
  · exact ConditionSet.evaluate_of_missing hnames hmissing

/-- A condition that every client but one satisfies. -/
def otherThan (client : String) : Condition :=
  .ofList [("StringNotEquals", .ofList [(Registry.sourceIpKey, [client])])]

/-- A peer that is a port alone, behind an empty proxy header. -/
theorem port_alone_is_missing :
    let r := (Request.ofAddress ":80").insertHeader "X-Real-IP" ""
    Registry.defaults.get? Registry.sourceIpKey = some sourceIp ∧
      (otherThan "10.0.0.1").Names Registry.sourceIpKey ∧
      (Registry.defaults.buildContext 0 r).get? Registry.sourceIpKey = none ∧
      (ConditionSet.ofCondition (otherThan "10.0.0.1")).evaluate
        (Registry.defaults.buildContext 0 r) = false := by
  intro r
  have hsource : Registry.defaults.get? Registry.sourceIpKey = some sourceIp := rfl
  have hnames : (otherThan "10.0.0.1").Names Registry.sourceIpKey :=
    ⟨"StringNotEquals", _, _, rfl, rfl⟩
  obtain ⟨hclient, _, hfails⟩ :=
    (client_missing_or_named r 0).2.2.2 Registry.defaults (fun _ => 0) hsource
  have hmissing := hclient.trans (by decide : sourceIp 0 r = none)
  exact ⟨hsource, hnames, hmissing, hfails hmissing _ hnames⟩

/-- A pair of brackets before the port is a client without a name. It differs from every
address, so the condition that a missing client fails is satisfied. -/
theorem bracketed_peer_is_empty :
    let r := Request.ofAddress "[]:80"
    ¬ (sourceIp 0 r = none ∨ ∃ text, text ≠ "" ∧ sourceIp 0 r = some (.string text)) ∧
      (ConditionSet.ofCondition (otherThan "10.0.0.1")).evaluate
        (Registry.defaults.buildContext 0 r) = true ∧
      (ConditionSet.ofCondition (otherThan "10.0.0.1")).evaluate
        (Registry.defaults.buildContext 0 (Request.ofAddress ":80")) = false := by
  intro r
  have hempty : sourceIp 0 r = some (.string "") := by decide
  refine ⟨?_, by decide +kernel, by decide +kernel⟩
  rw [hempty]
  simp [eq_comm]

/-! ## The long loopback address -/

namespace Network.Address

theorem reported_ne_loopback (a : Address) : a.reported ≠ loopback := by
  rw [reported]
  split
  · decide
  · assumption

end Network.Address

/-- The long loopback address as a client. For a socket address that holds it the short
one is reported. A text that is taken as it stands is replaced if it is the shortest
spelling and kept otherwise. So the client reads as the long loopback address exactly if
it is taken as it stands from another spelling of it. -/
theorem loopback_unless_spelled_out (r : Request) (now : Int) :
    (r.Unproxied → SocketText r.remoteAddress.toList .loopback →
      sourceIp now r = some (.string "127.0.0.1")) ∧
    (∀ text, Verbatim r text → Address.ofText? text = some .loopback →
      sourceIp now r = some (.string (if text = "::1" then "127.0.0.1" else text))) ∧
    ((∃ text, sourceIp now r = some (.string text) ∧
        Address.ofText? text = some .loopback) ↔
      ∃ text, Verbatim r text ∧ text ≠ "::1" ∧ Address.ofText? text = some .loopback) := by
  have hverbatim : ∀ text, Verbatim r text →
      sourceIp now r = some (.string (AttributeSource.reported text)) := fun text htext =>
    AttributeSource.sourceIp_eq_some_iff.mpr (.inl ⟨text, htext, rfl⟩)
  refine ⟨fun hunproxied hsocket => ?_, fun text htext _ => hverbatim text htext, ?_, ?_⟩
  · rw [AttributeSource.sourceIp_of_peer hsocket hunproxied]
    decide
  · rintro ⟨text, hclient, hread⟩
    rcases AttributeSource.sourceIp_eq_some_iff.mp hclient with
      ⟨stated, hstated, heq⟩ | ⟨_, a, _, heq⟩
    · rw [Json.Scalar.string.injEq] at heq
      have hspelling : stated ≠ "::1" := by
        rintro rfl
        rw [heq] at hread
        revert hread
        decide
      rw [heq, AttributeSource.reported, if_neg hspelling] at hread
      exact ⟨stated, hstated, hspelling, hread⟩
    · rw [Json.Scalar.string.injEq] at heq
      rw [heq, Address.ofText?_reported, Option.some.injEq] at hread
      exact absurd hread a.reported_ne_loopback
  · rintro ⟨text, htext, hspelling, hread⟩
    refine ⟨text, ?_, hread⟩
    rw [hverbatim text htext, AttributeSource.reported, if_neg hspelling]

/-- A socket address that spells the long loopback address out, and a proxy header that
gives its shortest spelling. -/
theorem loopback_clients_are_reported :
    let peer := Request.ofAddress "[0:0::0.0.0.1%7]:080"
    let proxied := (Request.ofAddress "10.0.0.1:80").insertHeader "X-Real-IP" "::1"
    SocketText peer.remoteAddress.toList .loopback ∧ peer.Unproxied ∧
      sourceIp 0 peer = some (.string "127.0.0.1") ∧
      Verbatim proxied "::1" ∧ sourceIp 0 proxied = some (.string "127.0.0.1") := by
  intro peer proxied
  have hsocket : SocketText peer.remoteAddress.toList .loopback :=
    Network.socketHost?_eq_some.mp (by decide)
  have hunproxied : peer.Unproxied := fun _ _ _ h => by cases h
  have hstated : Verbatim proxied "::1" :=
    @Verbatim.header proxied ["x-client-ip"] ["x-forwarded-for"] "x-real-ip" "::1" rfl
      (by decide) (by decide)
  exact ⟨hsocket, hunproxied, (loopback_unless_spelled_out peer 0).1 hunproxied hsocket, hstated,
    (loopback_unless_spelled_out proxied 0).2.1 "::1" hstated (by decide)⟩

/-- The long loopback address in full is kept where a proxy gives it, and the short one
does not match it; from a socket address it is reported as the short one. -/
theorem long_loopback_stays :
    let proxied := (Request.ofAddress "10.0.0.1:80").insertHeader "X-Client-IP" "0:0:0:0:0:0:0:1"
    let peer := Request.ofAddress "[0:0:0:0:0:0:0:1]:80"
    let local4 := Condition.Operator.ipAddress.comparator ["127.0.0.1"]
    ¬ (∀ text, sourceIp 0 proxied = some (.string text) →
        Address.ofText? text ≠ some .loopback) ∧
      ((sourceIp 0 proxied).map local4.accepts = some false) ∧
      ((sourceIp 0 peer).map local4.accepts = some true) := by
  intro proxied peer local4
  refine ⟨fun h => ?_, by decide +kernel, by decide +kernel⟩
  exact h "0:0:0:0:0:0:0:1" (by decide) (by decide)

end AccessDecision

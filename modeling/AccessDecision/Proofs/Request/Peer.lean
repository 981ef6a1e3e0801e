import AccessDecision.Proofs.Condition.Evaluation
import AccessDecision.Proofs.Network.Printing
import AccessDecision.Proofs.Network.Sockets
import AccessDecision.Proofs.Request.Headers

/-
  The address of the peer

  Without proxy headers the client is the peer. Its socket address is read, the address
  in it is written as a text, and a comparator reads that text again. The text is one and
  the same for every spelling of the address, and the comparator finds the address in it.

  What is proved:
    1. `sourceIp_of_peer` — the client is the text of the peer's address, whatever the
       port and the scope (`hostPart?_of_socketText`).
    2. `accepts_address` — what the address operators say of a text is a matter of the
       address that it reads as.
    3. `peer_address_survives` — so the operators judge the address of the peer, where
       the long loopback address counts as the short one.
-/

namespace AccessDecision

open Network (Address SocketText)
open Condition (Operator IsAddressRule Lists)

namespace Network.Address

/-- The long loopback address. -/
def loopback : Address := v6 ⟨1, by decide⟩

/-- The short loopback address. -/
def localhost : Address := v4 ⟨0x7F000001, by decide⟩

/-- The address that a peer is reported with. -/
def reported (a : Address) : Address := if a = loopback then localhost else a

theorem text_eq_loopback {a : Address} : a.text = "::1" ↔ a = loopback := by
  have hloopback : loopback.text = "::1" := by decide
  constructor
  · intro h
    have hread := ofText?_text a
    rw [h, ← hloopback, ofText?_text] at hread
    exact (Option.some.inj hread).symm
  · intro h
    rw [h, hloopback]

theorem ofText?_reported (a : Address) :
    ofText? (AttributeSource.reported a.text) = some a.reported := by
  rw [AttributeSource.reported, reported]
  by_cases h : a = loopback
  · rw [if_pos (text_eq_loopback.mpr h), if_pos h]
    decide
  · rw [if_neg (mt text_eq_loopback.mp h), if_neg h, ofText?_text]

end Network.Address

/-! ## The client of a request without proxies -/

/-- Each proxy header is absent or empty. -/
def Request.Unproxied (r : Request) : Prop :=
  ∀ name ∈ AttributeSource.clientHeaders, ∀ value,
    r.headers.get? (Request.headerKey name) = some value → value = ""

namespace AttributeSource

theorem hostPart?_of_socketText {text : String} {a : Address} (h : SocketText text.toList a) :
    hostPart? text = some a.text := by
  rw [hostPart?, Network.socketHost?_eq_some.mpr h]

/-- Without proxy headers the client is the peer. -/
theorem sourceIp_of_peer {r : Request} {a : Address} (hpeer : SocketText r.remoteAddress.toList a)
    (hunproxied : r.Unproxied) (now : Int) :
    sourceIp now r = some (.string (reported a.text)) := by
  rw [sourceIp_eq_some]
  refine .inr ⟨fun name hname => ?_, a.text, hostPart?_of_socketText hpeer, rfl⟩
  exact Request.header?_eq_none.mpr (hunproxied name hname)

end AttributeSource

/-! ## The verdicts of address operators -/

/-- The address operators judge the address that a text reads as, in short form where it
has one. -/
theorem accepts_address {text : String} {a : Address} (h : Address.ofText? text = some a)
    (rules : List String) :
    ((Operator.ipAddress.comparator rules).accepts (.string text) = true ↔
      ∃ rule ∈ rules, IsAddressRule rule ∧ Lists rule a.canonical) ∧
    ((Operator.notIpAddress.comparator rules).accepts (.string text) = true ↔
      ∃ rule ∈ rules, IsAddressRule rule ∧ ¬ Lists rule a.canonical) := by
  have hreads : ∀ b, Condition.ReadsAddress (.string text) b ↔ b = a.canonical := by
    intro b
    rw [← Condition.addressOf?_eq_some, Condition.addressOf?_string h, Option.some.injEq, eq_comm]
  constructor
  · simp only [Condition.accepts_comparator, Operator.Holds, hreads, exists_eq_left]
  · simp only [Condition.accepts_comparator, Operator.Holds, hreads, exists_eq_left]

/-- The address of a peer reaches the comparator. Where each proxy header is absent or
empty, the client is a text that reads as the address, or the short loopback address if
it is the long one. So both address operators judge the address as it is reported, and
give every other peer of the same address the same verdict, whatever the spelling, the
port and the scope of its socket address are. -/
theorem peer_address_survives {a : Address} {r : Request}
    (hpeer : SocketText r.remoteAddress.toList a) (hunproxied : r.Unproxied) :
    ∃ text, (∀ now, AttributeSource.sourceIp now r = some (.string text)) ∧
      (a = .loopback → text = "127.0.0.1") ∧
      (a ≠ .loopback → Address.ofText? text = some a) ∧
      (∀ rules,
        ((Operator.ipAddress.comparator rules).accepts (.string text) = true ↔
          ∃ rule ∈ rules, IsAddressRule rule ∧ Lists rule a.reported.canonical) ∧
        ((Operator.notIpAddress.comparator rules).accepts (.string text) = true ↔
          ∃ rule ∈ rules, IsAddressRule rule ∧ ¬ Lists rule a.reported.canonical)) ∧
      ∀ r' : Request, SocketText r'.remoteAddress.toList a → r'.Unproxied → ∀ now,
        ∃ x, AttributeSource.sourceIp now r' = some x ∧
          ∀ op ∈ [Operator.ipAddress, Operator.notIpAddress], ∀ rules,
            (op.comparator rules).accepts x = (op.comparator rules).accepts (.string text) := by
  refine ⟨AttributeSource.reported a.text, AttributeSource.sourceIp_of_peer hpeer hunproxied,
    ?_, ?_, accepts_address (Address.ofText?_reported a), ?_⟩
  · intro h
    rw [AttributeSource.reported, if_pos (Address.text_eq_loopback.mpr h)]
  · intro h
    rw [Address.ofText?_reported, Address.reported, if_neg h]
  · intro r' hpeer' hunproxied' now
    exact ⟨_, AttributeSource.sourceIp_of_peer hpeer' hunproxied' now, fun _ _ _ => rfl⟩

/-- A long address in capitals with a scope and a padded port, behind an empty proxy
header. -/
theorem scoped_peer_survives :
    let r := (Request.ofAddress "[FE80:0::1%2]:080").insertHeader "X-Client-IP" ""
    let a : Address := .v6 ⟨0xFE800000000000000000000000000001, by decide⟩
    SocketText r.remoteAddress.toList a ∧ r.Unproxied ∧
      ∃ text, AttributeSource.sourceIp 0 r = some (.string text) ∧ Address.ofText? text = some a ∧
        ∃ x, AttributeSource.sourceIp 0 (Request.ofAddress "[fe80::0.0.0.1]:65535") = some x ∧
          (Operator.ipAddress.comparator ["fe80::/10"]).accepts x =
            (Operator.ipAddress.comparator ["fe80::/10"]).accepts (.string text) := by
  intro r a
  have hpeer : SocketText r.remoteAddress.toList a := Network.socketHost?_eq_some.mp (by decide)
  have hpeer' : SocketText (Request.ofAddress "[fe80::0.0.0.1]:65535").remoteAddress.toList a :=
    Network.socketHost?_eq_some.mp (by decide)
  have hunproxied : r.Unproxied := by
    intro name hname
    refine Request.header?_eq_none.mp ?_
    revert name
    decide
  obtain ⟨text, hclient, _, hread, _, hother⟩ := peer_address_survives hpeer hunproxied
  obtain ⟨x, hx, hverdict⟩ := hother (Request.ofAddress "[fe80::0.0.0.1]:65535") hpeer'
    (fun _ _ _ h => by cases h) 0
  exact ⟨hpeer, hunproxied, text, hclient 0, hread (by decide), x, hx,
    hverdict .ipAddress (by simp) _⟩

end AccessDecision

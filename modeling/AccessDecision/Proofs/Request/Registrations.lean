import AccessDecision.Proofs.Request.Headers
import AccessDecision.Proofs.Text.Bytes

/-
  Registries and requests by the calls that made them

  A registry starts without keys or with the built-in ones, and every registration
  replaces an earlier one of the same key. The built-in keys are registered like others,
  so a registry is the map of its registrations, those it starts with in front.

  What is proved:
    1. `registerAll_eq` — a registry is the map of its registrations, in which the last
       one of a key counts. So registrations of different keys can change places
       (`registerAll_of_filter`).
    2. `get?_contextAt` — the context holds the attributes that the sources find, under
       their keys and no others, each source asked at its own time.
    3. `last_calls_decide` — keys, contexts, headers and the address of the client follow
       from the calls that came last, whatever the others were.
-/

namespace AccessDecision

namespace Registry

/-- How a registry starts. -/
inductive Start where
  | new
  | defaults
deriving DecidableEq, Repr

/-- The registry at the start. -/
def Start.registry : Start → Registry
  | new => empty
  | defaults => Registry.defaults

/-- What is registered at the start. -/
def Start.registrations : Start → List (String × AttributeSource)
  | new => []
  | defaults =>
    [(sourceIpKey, .sourceIp), (currentTimeKey, .currentTime), (serviceNameKey, .serviceName)]

/-- Registrations one after the other. -/
def registerAll (r : Registry) (calls : List (String × AttributeSource)) : Registry :=
  calls.foldl (fun r e => r.register e.1 e.2) r

variable {start : Start} {calls calls' : List (String × AttributeSource)} {key : String}
  {source : AttributeSource}

theorem registerAll_eq : start.registry.registerAll calls =
    KeyMap.ofList (start.registrations ++ calls) := by
  rw [KeyMap.ofList, List.foldl_append]
  cases start <;> rfl

theorem get?_registerAll : (start.registry.registerAll calls).get? key = some source ↔
    KeyMap.LastOf (· = key) (start.registrations ++ calls) source := by
  rw [registerAll_eq, KeyMap.get?_ofList, KeyMap.mem_lasting_iff]

/-- The keys of a registry are those of its registrations. -/
theorem mem_keys_registerAll : key ∈ (start.registry.registerAll calls).keys ↔
    ∃ e ∈ start.registrations ++ calls, e.1 = key := by
  simp only [KeyMap.mem_keys, get?_registerAll]
  constructor
  · rintro ⟨source, hlast⟩
    exact hlast.mem
  · exact fun h => KeyMap.exists_lastOf h

/-- Registrations of different keys can change places. -/
theorem registerAll_of_filter (h : ∀ k, calls'.filter (·.1 == k) = calls.filter (·.1 == k)) :
    start.registry.registerAll calls' = start.registry.registerAll calls := by
  refine KeyMap.eq_of_get? fun k => Option.ext fun source => ?_
  have hkind : ∀ k', k' = k → (k' == k) = true := fun k' heq => beq_iff_eq.mpr heq
  have hfilter : (start.registrations ++ calls').filter (·.1 == k) =
      (start.registrations ++ calls).filter (·.1 == k) := by
    rw [List.filter_append, List.filter_append, h]
  rw [get?_registerAll, get?_registerAll]
  exact (KeyMap.lastOf_filter hkind).symm.trans (hfilter ▸ KeyMap.lastOf_filter hkind)

/-! ## Contexts -/

variable {r : Registry} {times : String → Int} {request : Request} {value : Condition.Value}

theorem contextAt_eq :
    r.contextAt times request = r.filterMap fun key source => source (times key) request := by
  rw [contextAt, ← KeyMap.ofList_of_perm (.refl (r.filterMap _).entries), KeyMap.ofList,
    KeyMap.filterMap, List.foldl_filterMap]
  congr
  funext context e
  obtain ⟨key, source⟩ := e
  dsimp only
  cases source (times key) request with
  | none => rfl
  | some value => rfl

/-- A context holds what the sources find. -/
theorem get?_contextAt : (r.contextAt times request).get? key = some value ↔
    ∃ source, r.get? key = some source ∧ source (times key) request = some value := by
  rw [contextAt_eq, KeyMap.get?_filterMap, Option.bind_eq_some_iff]

end Registry

open AttributeSource (reported) in
/-- Of a registry with whatever start and registrations, and a request whose headers were
set one after the other: the keys are the registered ones, once each in the order of their
bytes. The context holds a key exactly if the source that was registered last for it finds
a value at the time at which it is asked, and holds that value, so registrations of
different keys can change places. A header has the value that was set last under its name
in whatever case, unless that is empty. The client is the first of the proxy headers that
has a value, and the peer if none has. -/
theorem last_calls_decide (start : Registry.Start) (calls : List (String × AttributeSource))
    (address : String) (hs : List (String × String)) :
    let registrations := start.registrations ++ calls
    let registry := start.registry.registerAll calls
    let request := (Request.ofAddress address).insertHeaders hs
    (registry.keys.Pairwise (fun k k' => Text.bytes k < Text.bytes k') ∧
      ∀ key, key ∈ registry.keys ↔ ∃ e ∈ registrations, e.1 = key) ∧
    (∀ times key value, (registry.contextAt times request).get? key = some value ↔
      ∃ source, KeyMap.LastOf (· = key) registrations source ∧
        source (times key) request = some value) ∧
    (∀ calls', (∀ key, calls'.filter (·.1 == key) = calls.filter (·.1 == key)) →
      start.registry.registerAll calls' = registry) ∧
    (∀ name, (∀ value, request.header? name = some value ↔
        value ≠ "" ∧ KeyMap.LastOf (SameName · name) hs value) ∧
      (request.header? name = none ↔ Request.Unset hs name)) ∧
    ∀ now x, AttributeSource.sourceIp now request = some x ↔
      (∃ before name after value,
        ["x-client-ip", "x-real-ip", "x-forwarded-for"] = before ++ name :: after ∧
        (∀ earlier ∈ before, Request.Unset hs earlier) ∧
        (value ≠ "" ∧ KeyMap.LastOf (SameName · name) hs value) ∧
        x = .string (reported value)) ∨
      ((∀ name ∈ ["x-client-ip", "x-real-ip", "x-forwarded-for"], Request.Unset hs name) ∧
        ∃ host, AttributeSource.hostPart? address = some host ∧
          x = .string (reported host)) := by
  intro registrations registry request
  refine ⟨⟨?_, fun _ => Registry.mem_keys_registerAll⟩, ?_, ?_, ?_, ?_⟩
  · exact List.pairwise_map.mpr (registry.sorted.imp Text.bytes_lt)
  · intro times key value
    simp only [Registry.get?_contextAt, registry, Registry.get?_registerAll]
    rfl
  · intro calls' hcalls
    exact Registry.registerAll_of_filter hcalls
  · intro name
    exact ⟨fun _ => Request.header?_insertHeaders_eq_some, Request.header?_insertHeaders_eq_none⟩
  · intro now x
    rw [AttributeSource.sourceIp_eq_some]
    simp only [request, Request.header?_insertHeaders_eq_none,
      Request.header?_insertHeaders_eq_some, Request.remoteAddress_insertHeaders]
    rfl

end AccessDecision

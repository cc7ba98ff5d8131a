import ControlPlane.Proofs.Server.Exposure

/-!
# Checking a Configuration and Using It

The entries of a configuration are read twice. A check goes through all of them and collects
every problem; a setup reads them again and stops at the first that it cannot read. The two
were written apart and have to agree on every text. Otherwise a configuration would pass the
check and still fail to set a server up.

They agree because both ask the same of an entry, whether it can be read without the blanks
around it. The problems of a kind are the entries that cannot be (`allowEntries_problems`,
`bindEntries_problems`), so the first problem and the fault of the setup are about the same
entry. The problem names it as it was written and the fault without its blanks.

Bind entries are read with a default port, and the check and the setup take it from the same
setting. It would not matter if they did not (`parses_port`).

## Main definitions

* `Problem.allowText?`, `Problem.bindText?`: The entry that a problem is about.
* `Config.Agreement`: How the check and the setup agree.

## Theorems

* `allowEntries_problems`, `bindEntries_problems`: The problems of a kind are the entries that
  cannot be read.
* `Endpoint.parses_port`: The default port does not decide whether an entry can be read.
* `AllowList.isOk_ofEntries_singleton`: A list of one entry can be made if it can be read.
* `Endpoint.choose_eq_error_iff`: When endpoints cannot be chosen.
* `Config.init_eq_error_iff`: Why setting a server up fails.
* `Config.agreement_of_readers`: The check and the setup agree on every configuration.
-/

namespace ControlPlane

/-! ### Problems of entries -/

namespace Problem

/-- The allow entry that a problem is about. -/
def allowText? : Problem → Option String
  | .allow entry => some entry
  | _ => none

/-- The bind entry that a problem is about. -/
def bindText? : Problem → Option String
  | .bind entry => some entry
  | _ => none

theorem mem_allowEntries {ps : List Problem} {entry : String} :
    entry ∈ ps.filterMap allowText? ↔ .allow entry ∈ ps := by
  have htext : ∀ p : Problem, p.allowText? = some entry ↔ p = .allow entry := by
    intro p
    cases p <;> simp only [allowText?, Option.some.injEq, Problem.allow.injEq, reduceCtorEq]
  simp only [List.mem_filterMap, htext, exists_eq_right]

theorem mem_bindEntries {ps : List Problem} {entry : String} :
    entry ∈ ps.filterMap bindText? ↔ .bind entry ∈ ps := by
  have htext : ∀ p : Problem, p.bindText? = some entry ↔ p = .bind entry := by
    intro p
    cases p <;> simp only [bindText?, Option.some.injEq, Problem.bind.injEq, reduceCtorEq]
  simp only [List.mem_filterMap, htext, exists_eq_right]

/-- The entries that problems are about, where only entries that cannot be read have one. -/
theorem filterMap_text? {text? : Problem → Option String} {problem : String → Problem}
    (parses : String → Bool) (htext : ∀ entry, text? (problem entry) = some entry)
    (entries : List String) :
    (entries.filterMap fun entry => if parses entry then none else some (problem entry)).filterMap
      text? = entries.filter fun entry => !parses entry := by
  induction entries with
  | nil => rfl
  | cons entry rest ih =>
      cases hparses : parses entry with
      | true =>
          simp only [List.filterMap_cons, hparses, if_true, List.filter_cons, Bool.not_true,
            Bool.false_eq_true, if_false, ih]
      | false =>
          simp only [List.filterMap_cons, hparses, Bool.false_eq_true, if_false, List.filter_cons,
            Bool.not_false, if_true, htext, ih]

/-- Problems of another kind are about no such entry. -/
theorem filterMap_text?_other {text? : Problem → Option String} {problem : String → Problem}
    (parses : String → Bool) (htext : ∀ entry, text? (problem entry) = none)
    (entries : List String) :
    (entries.filterMap fun entry => if parses entry then none else some (problem entry)).filterMap
      text? = [] := by
  refine List.filterMap_eq_nil_iff.mpr fun p hmem => ?_
  rcases List.mem_filterMap.mp hmem with ⟨entry, _, hproblem⟩
  have heq := Option.some.inj (Option.ite_none_left_eq_some.mp hproblem).2
  rw [← heq]
  exact htext entry

end Problem

namespace Config

theorem allowProblem?_eq :
    allowProblem? = fun entry => if AllowList.parses entry then none else some (.allow entry) := by
  funext entry
  unfold allowProblem? AllowList.parses
  cases Subnet.ofText (Text.trim entry) with
  | ok s => rfl
  | error fault => rfl

theorem bindProblem?_eq (port : UInt16) :
    bindProblem? port =
      fun entry => if Endpoint.parses port entry then none else some (.bind entry) := by
  funext entry
  unfold bindProblem? Endpoint.parses
  cases Endpoint.ofText (Text.trim entry) port with
  | ok e => rfl
  | error fault => rfl

theorem text?_of_settingProblem {c : Config} {p : Problem} (h : p ∈ c.settingProblems) :
    p.allowText? = none ∧ p.bindText? = none := by
  simp only [settingProblems, List.mem_append, List.mem_ite_nil_right, List.mem_singleton] at h
  rcases h with (⟨_, heq⟩ | ⟨_, heq⟩) | ⟨_, heq⟩
  all_goals
    rw [heq]
    exact ⟨rfl, rfl⟩

/-- The problems of allow entries are the entries that cannot be read. -/
theorem allowEntries_problems (c : Config) :
    c.problems.filterMap Problem.allowText? =
      c.serving.allow.filter fun entry => !AllowList.parses entry := by
  have hother : (c.serving.bind.filterMap (bindProblem? c.serving.port)).filterMap
      Problem.allowText? = [] := by
    rw [bindProblem?_eq]
    exact Problem.filterMap_text?_other _ (fun _ => rfl) c.serving.bind
  have hsettings : c.settingProblems.filterMap Problem.allowText? = [] :=
    List.filterMap_eq_nil_iff.mpr fun p hmem => (text?_of_settingProblem hmem).1
  rw [problems, List.filterMap_append, List.filterMap_append, hother, hsettings, List.append_nil,
    List.append_nil, allowProblem?_eq]
  exact Problem.filterMap_text? AllowList.parses (fun _ => rfl) c.serving.allow

/-- So are those of bind entries. -/
theorem bindEntries_problems (c : Config) :
    c.problems.filterMap Problem.bindText? =
      c.serving.bind.filter fun entry => !Endpoint.parses c.serving.port entry := by
  have hother : (c.serving.allow.filterMap allowProblem?).filterMap Problem.bindText? = [] := by
    rw [allowProblem?_eq]
    exact Problem.filterMap_text?_other _ (fun _ => rfl) c.serving.allow
  have hsettings : c.settingProblems.filterMap Problem.bindText? = [] :=
    List.filterMap_eq_nil_iff.mpr fun p hmem => (text?_of_settingProblem hmem).2
  rw [problems, List.filterMap_append, List.filterMap_append, hother, hsettings, List.nil_append,
    List.append_nil, bindProblem?_eq]
  exact Problem.filterMap_text? (Endpoint.parses c.serving.port) (fun _ => rfl) c.serving.bind

end Config

/-! ### Reading one entry and reading them all -/

/-- A list of one entry can be made if the entry can be read. -/
theorem AllowList.isOk_ofEntries_singleton (entry : String) :
    (ofEntries [entry]).isOk = parses entry := by
  rw [Bool.eq_iff_iff, isOk_iff, exists_ofEntries_iff, List.forall_mem_singleton]

namespace Endpoint

/-- The default port does not decide whether an entry can be read. -/
theorem parses_port (port other : UInt16) (entry : String) :
    parses port entry = parses other entry := by
  have hall : ∀ first second : UInt16, parses first entry = true → parses second entry = true := by
    intro first second hparses
    rcases (parses_iff first entry).mp hparses with ⟨e, he⟩
    -- With another default port the endpoint may be another one, but there is one.
    have hread : ∃ e', ofText? (Text.trim entry) second = some e' := by
      rcases ofText_default he with howns | ⟨_, htakes⟩
      · exact ⟨e, howns second⟩
      · exact ⟨_, htakes second⟩
    rcases hread with ⟨e', hread⟩
    refine (parses_iff second entry).mpr ⟨e', ?_⟩
    simp only [ofText, hread]
  exact Bool.eq_iff_iff.mpr ⟨hall port other, hall other port⟩

/-- Endpoints cannot be chosen only if both lists have entries, and then the first bind entry
    that cannot be read is named. -/
theorem choose_eq_error_iff (port : UInt16) (bind allow : List String) (fault : InvalidEndpoint) :
    choose port bind allow = .error fault ↔
      bind ≠ [] ∧ allow ≠ [] ∧
        ∃ entry, bind.find? (fun entry => !parses port entry) = some entry ∧
          fault = ⟨Text.trim entry⟩ := by
  rw [← readEntries_eq_error_iff]
  unfold choose
  by_cases hclosed : (bind.isEmpty || allow.isEmpty) = true
  · -- The bind entries are not read at all.
    rw [if_pos hclosed]
    simp only [Bool.or_eq_true, List.isEmpty_iff] at hclosed
    refine ⟨nofun, ?_⟩
    rintro ⟨hbind, hallow, _⟩
    exact absurd hclosed (not_or.mpr ⟨hbind, hallow⟩)
  · rw [if_neg hclosed]
    simp only [Bool.or_eq_true, List.isEmpty_iff, not_or] at hclosed
    exact ⟨fun h => ⟨hclosed.1, hclosed.2, h⟩, fun h => h.2.2⟩

end Endpoint

namespace Config

/-- How the check of a configuration and its use agree. -/
structure Agreement (c : Config) : Prop where
  /-- The problems of allow entries are the entries of which alone no list can be made, as they
      were written, in order and with repetitions. -/
  allow : c.problems.filterMap Problem.allowText? =
    c.serving.allow.filter fun entry => !(AllowList.ofEntries [entry]).isOk
  /-- Those of bind entries are the entries that are no endpoint, whatever the default port. -/
  bind : ∀ port, c.problems.filterMap Problem.bindText? =
    c.serving.bind.filter fun entry => !(Endpoint.ofText (Text.trim entry) port).isOk
  /-- No allow list can be made exactly if there is a problem of an allow entry. -/
  list : (∃ fault, AllowList.ofEntries c.serving.allow = .error fault) ↔
    ∃ entry, .allow entry ∈ c.problems
  /-- The fault names the entry of the first such problem, without the blanks around it. -/
  first : ∀ fault, AllowList.ofEntries c.serving.allow = .error fault →
    ∃ entry, (c.problems.filterMap Problem.allowText?).head? = some entry ∧
      fault = ⟨Text.trim entry⟩
  /-- If both lists have entries, no endpoints can be chosen exactly if there is a problem of a
      bind entry. -/
  endpoints : c.serving.bind ≠ [] → c.serving.allow ≠ [] →
    ((∃ fault, Endpoint.choose c.serving.port c.serving.bind c.serving.allow = .error fault) ↔
      ∃ entry, .bind entry ∈ c.problems)
  /-- Without problems the allow list can be made and the endpoints can be chosen. -/
  valid : c.problems = [] → (∃ list, AllowList.ofEntries c.serving.allow = .ok list) ∧
    ∃ endpoints, Endpoint.choose c.serving.port c.serving.bind c.serving.allow = .ok endpoints
  /-- So setting a server up fails in another phase, over these problems, or because none of its
      endpoints can be bound, and for no other reason. -/
  setup : ∀ (s : Server) (attempt : Nat → Endpoint → Attempt) (fault : ServerFault), s.config = c →
    ((s.init attempt).2.1 = .error fault ↔
      (s.phase ≠ .uninitialized ∧ fault = .phase .setUp s.phase) ∨
      (s.phase = .uninitialized ∧ c.problems ≠ [] ∧ fault = .config c.problems) ∨
      (s.phase = .uninitialized ∧ c.problems = [] ∧ fault = .noEndpoints ∧ ∃ endpoints,
        Endpoint.choose c.serving.port c.serving.bind c.serving.allow = .ok endpoints ∧
          Listener.bound attempt endpoints = []))

/-- Where a fault is about the first entry of a list, there is one if the list has entries. -/
theorem exists_fault_iff {ε α : Type} {outcome : Except ε α} {entries : List String}
    {named : String → ε} (h : ∀ fault, outcome = .error fault ↔
      ∃ entry, entries.head? = some entry ∧ fault = named entry) :
    (∃ fault, outcome = .error fault) ↔ ∃ entry, entry ∈ entries := by
  simp only [h]
  cases entries with
  | nil => exact ⟨nofun, nofun⟩
  | cons first others =>
      exact ⟨fun _ => ⟨first, List.mem_cons_self⟩, fun _ => ⟨named first, first, rfl, rfl⟩⟩

/-- The fault of the allow list is about the first problem of an allow entry. -/
theorem ofEntries_eq_error_iff_problem (c : Config) (fault : InvalidSubnet) :
    AllowList.ofEntries c.serving.allow = .error fault ↔
      ∃ entry, (c.problems.filterMap Problem.allowText?).head? = some entry ∧
        fault = ⟨Text.trim entry⟩ := by
  rw [AllowList.ofEntries_eq_error_iff, ← List.head?_filter, allowEntries_problems]

/-- That of the endpoints is about the first problem of a bind entry, where these are used. -/
theorem choose_eq_error_iff_problem (c : Config) (hbind : c.serving.bind ≠ [])
    (hallow : c.serving.allow ≠ []) (fault : InvalidEndpoint) :
    Endpoint.choose c.serving.port c.serving.bind c.serving.allow = .error fault ↔
      ∃ entry, (c.problems.filterMap Problem.bindText?).head? = some entry ∧
        fault = ⟨Text.trim entry⟩ := by
  rw [Endpoint.choose_eq_error_iff, ← List.head?_filter, bindEntries_problems]
  exact ⟨fun h => h.2.2, fun h => ⟨hbind, hallow, h⟩⟩

/-- A configuration with problems is refused with all of them, before anything else is done. -/
theorem init_of_problems {s : Server} (hphase : s.phase = .uninitialized)
    (hproblems : s.config.problems ≠ []) (attempt : Nat → Endpoint → Attempt) :
    (s.init attempt).2.1 = .error (.config s.config.problems) := by
  unfold Server.init Server.prepare
  cases hps : s.config.problems with
  | nil => exact absurd hps hproblems
  | cons p ps =>
      rw [if_pos hphase]

/-- Why setting a server up fails. -/
theorem init_eq_error_iff (s : Server) (attempt : Nat → Endpoint → Attempt) (fault : ServerFault) :
    (s.init attempt).2.1 = .error fault ↔
      (s.phase ≠ .uninitialized ∧ fault = .phase .setUp s.phase) ∨
      (s.phase = .uninitialized ∧ s.config.problems ≠ [] ∧ fault = .config s.config.problems) ∨
      (s.phase = .uninitialized ∧ s.config.problems = [] ∧ fault = .noEndpoints ∧ ∃ endpoints,
        Endpoint.choose s.config.serving.port s.config.serving.bind s.config.serving.allow =
          .ok endpoints ∧ Listener.bound attempt endpoints = []) := by
  by_cases hphase : s.phase = .uninitialized
  · by_cases hvalid : s.config.problems = []
    · -- Without problems only the host can refuse, by binding nothing.
      rcases Server.tries_of_init hvalid hphase attempt with ⟨endpoints, hendpoints, htries⟩
      simp only [hphase, hvalid, ne_eq, not_true_eq_false, false_and, true_and, false_or,
        hendpoints, Except.ok.injEq, exists_eq_left']
      by_cases hnone : Listener.bound attempt endpoints = []
      · rw [(htries.failed hnone).1, Except.error.injEq]
        exact ⟨fun heq => ⟨heq.symm, hnone⟩, fun h => h.1.symm⟩
      · rw [(htries.kept hnone).1]
        exact ⟨nofun, fun h => absurd h.2 hnone⟩
    · rw [init_of_problems hphase hvalid, Except.error.injEq]
      simp only [hphase, hvalid, ne_eq, not_true_eq_false, not_false_eq_true, false_and, true_and,
        false_or, or_false]
      exact eq_comm
  · rw [Server.init_refused s attempt hphase, Except.error.injEq]
    simp only [hphase, ne_eq, not_false_eq_true, true_and, false_and, or_false]
    exact eq_comm

/-- The check of a configuration and its use agree, whatever its entries are. -/
theorem agreement_of_readers (c : Config) : Agreement c := by
  constructor
  case allow =>
    rw [allowEntries_problems]
    simp only [AllowList.isOk_ofEntries_singleton]
  case bind =>
    intro port
    rw [bindEntries_problems]
    simp only [Endpoint.parses_port c.serving.port port]
    rfl
  case list =>
    rw [exists_fault_iff (ofEntries_eq_error_iff_problem c)]
    simp only [Problem.mem_allowEntries]
  case first => exact fun fault => (ofEntries_eq_error_iff_problem c fault).mp
  case endpoints =>
    intro hbind hallow
    rw [exists_fault_iff (choose_eq_error_iff_problem c hbind hallow)]
    simp only [Problem.mem_bindEntries]
  case valid =>
    intro hvalid
    -- What the host says to the attempts does not matter here.
    rcases Server.prepare_of_valid hvalid fun _ _ => .error "" with
      ⟨allow, endpoints, hallow, hendpoints, _⟩
    exact ⟨⟨allow, hallow⟩, endpoints, hendpoints⟩
  case setup =>
    intro s attempt fault hconfig
    rw [← hconfig]
    exact init_eq_error_iff s attempt fault

end Config

end ControlPlane

import ControlPlane.Proofs.AllowList.Host
import ControlPlane.Proofs.Config.Entries
import ControlPlane.Proofs.Server.Lifecycle
import ControlPlane.Proofs.Service.Authority

/-!
# Exposure

A server is reachable from beyond its host only if its owner has said so twice: who may
connect, and where to listen. With only one of the two lists, or with neither, it listens
on the host's own addresses; and without allow entries it lets nobody in but peers on the
host itself, whatever it listens on and whatever is done to it later.

The first part is about the setup. A configuration without problems leaves one thing
undecided, which of the endpoints can be bound, so the setup is told apart by that alone.

The second part is about everything after it. The callback that the setup has made is the
only one that ever admits, since whatever happens later leaves it or replaces it by the one
that refuses everything. Everything that the owner does to the server comes down to
operations on its service, so it is enough to follow those (`leads_apply`).

## Main definitions

* `Listener.bound`: The listeners of the endpoints that can be bound.
* `Listener.attempts`: What is told while endpoints are tried.
* `Service.Leads`: Operations lead from one service to another.
* `Service.HostOnly`: A service that admits peers on the host only.
* `Server.Event`, `Server.history`: Whatever happens to a server.
* `Server.Tries`: A setup that tries these endpoints.
* `Server.Exposure`: What the setup of a server comes to.

## Theorems

* `bindAll_eq`: Binding endpoints keeps those that can be bound, in order.
* `prepare_of_valid`: A configuration without problems leaves the binding to decide.
* `tries_of_init`: So does setting a server up.
* `hostOnly_run`: A service that admits peers on the host only stays so.
* `start_cases`, `interrupt_cases`: What starting and interrupting come to.
* `leads_apply`, `leads_history`: Whatever happens to a server is done to its service.
* `config_apply`, `config_run`: Nothing changes the configuration of a server.
* `exposure_of_init`: Exposing a server takes two decisions.
-/

namespace ControlPlane

open Telemetry (Observation)

/-! ### Binding -/

namespace Listener

/-- The listeners of the endpoints that can be bound, in order. -/
def bound (attempt : Nat → Endpoint → Attempt) (endpoints : List Endpoint) : List Listener :=
  endpoints.zipIdx.filterMap fun (e, i) => (attempt i e).toOption.map fun address => ⟨e, address⟩

/-- What is told while endpoints are tried one after the other. -/
def attempts (attempt : Nat → Endpoint → Attempt) (endpoints : List Endpoint) :
    List Observation :=
  endpoints.zipIdx.flatMap fun (e, i) => attemptEvents e (attempt i e)

/-- Binding endpoints tries each of them and keeps those that can be bound. -/
theorem bindAll_eq (attempt : Nat → Endpoint → Attempt) (endpoints : List Endpoint) :
    bindAll attempt endpoints = (bound attempt endpoints, attempts attempt endpoints) := by
  have hlistener : ∀ (e : Endpoint) (a : Attempt),
      ofAttempt? e a = a.toOption.map fun address => ⟨e, address⟩ := by
    intro e a
    cases a with
    | error reason => rfl
    | ok address => rfl
  unfold bindAll bound attempts
  simp only [List.filterMap_map, List.flatMap_map, Function.comp_def, hlistener]

/-- A listener that is kept is for one of the endpoints. -/
theorem endpoint_of_bound {attempt : Nat → Endpoint → Attempt} {endpoints : List Endpoint}
    {l : Listener} (h : l ∈ bound attempt endpoints) : l.endpoint ∈ endpoints := by
  rcases List.mem_filterMap.mp h with ⟨⟨e, i⟩, hmem, hlistener⟩
  rcases Option.map_eq_some_iff.mp hlistener with ⟨address, _, heq⟩
  rw [← heq]
  exact List.mem_of_getElem? (List.mem_zipIdx_iff_getElem?.mp hmem)

end Listener

/-! ### Services that admit the host only -/

namespace Service

variable {s s' s'' : Service} {op : Operation}

/-- Operations lead from one service to another. -/
def Leads (s s' : Service) : Prop :=
  ∃ ops, s' = (s.run ops).1

theorem leads_refl (s : Service) : Leads s s :=
  ⟨[], rfl⟩

theorem leads_trans (h : Leads s s') (h' : Leads s' s'') : Leads s s'' := by
  rcases h with ⟨first, hfirst⟩
  rcases h' with ⟨others, hothers⟩
  refine ⟨first ++ others, ?_⟩
  rw [run_append, ← hfirst]
  exact hothers

theorem leads_of_apply (s : Service) (op : Operation) : Leads s (s.apply op).1 :=
  ⟨[op], rfl⟩

/-- A service that admits peers on the host only, and has admitted no others. -/
structure HostOnly (s : Service) : Prop where
  ordered : s.Ordered
  callback : s.callback = .dispatch .standard ∨ s.callback = .reject
  jobs : ∀ job ∈ s.queue.items, ∃ x, s.exchanges[job.exchange]? = some x ∧
    x.head.peer.address.isHost = true

/-- A request that passes the gates of such a service is from a peer on the host. -/
theorem isHost_of_admits {allow : AllowList} {head : RequestHead} {handler : Handler}
    {subpath : String} (hs : HostOnly s) (h : s.Admits allow head handler subpath) :
    head.peer.address.isHost = true := by
  have hstandard : allow = .standard := by
    rcases hs.callback with hdispatch | hreject
    · exact Callback.dispatch.inj (h.callback.symm.trans hdispatch)
    · exact absurd (h.callback.symm.trans hreject) nofun
  have hpeer := h.peer
  rw [hstandard, AllowList.isAllowed_standard] at hpeer
  exact hpeer

/-- Every operation keeps it so. -/
theorem hostOnly_apply (hs : HostOnly s) (op : Operation) : HostOnly (s.apply op).1 := by
  have hshift := shift_apply hs.ordered op
  refine ⟨ordered_of_shift hshift hs.ordered, ?_, fun job hmem => ?_⟩
  · rcases hshift.callback with hsame | hreject
    · rw [hsame]
      exact hs.callback
    · exact Or.inr hreject
  · have hstays : job ∈ s.queue.items → ∃ x, (s.apply op).1.exchanges[job.exchange]? = some x ∧
        x.head.peer.address.isHost = true := by
      intro hold
      rcases hs.jobs job hold with ⟨x, hx, hhost⟩
      rcases hshift.kept job hold hmem x hx with ⟨waiter, hafter⟩
      exact ⟨_, hafter, hhost⟩
    rcases hshift.items with hsub | ⟨allow, head, body, handler, subpath, _, hadmits, hitems, hnew⟩
    · exact hstays (hsub.subset hmem)
    · rw [hitems] at hmem
      rcases List.mem_append.mp hmem with hold | hlast
      · exact hstays hold
      · rw [List.mem_singleton.mp hlast]
        exact ⟨_, hnew, isHost_of_admits hs hadmits⟩

theorem hostOnly_run (ops : List Operation) :
    ∀ s : Service, HostOnly s → HostOnly (s.run ops).1 := by
  induction ops with
  | nil => exact fun s hs => hs
  | cons op rest ih => exact fun s hs => ih (s.apply op).1 (hostOnly_apply hs op)

/-- A request that such a service queues is from a peer on the host. -/
theorem isHost_of_queued (hs : HostOnly s) {head : RequestHead} {body : ByteArray}
    (h : (s.apply (.request head body)).1.queue.items ≠ s.queue.items) :
    head.peer.address.isHost = true := by
  cases hgate : s.gate? head with
  | some refusal =>
      rcases refusal with ⟨status, text⟩
      rw [(refused_of_gate? hgate body).2] at h
      exact absurd rfl h
  | none =>
      rcases admits_of_gate? hgate with ⟨allow, handler, subpath, hadmits⟩
      exact isHost_of_admits hs hadmits

/-- Whoever has loaded the callback before screens with it alike, whatever the service has
    become. -/
theorem isHost_of_screen {number : Nat} {job : Job}
    (h : (s.screen (.dispatch .standard) number).2.1 = some job) :
    ∃ x, s.exchanges[job.exchange]? = some x ∧ x.head.peer.address.isHost = true := by
  rcases s.screen_cases (.dispatch .standard) number with
    ⟨_, hscreen⟩ | ⟨x, _, hx, _, ⟨_, _, hscreen⟩ |
      ⟨allow, handler, subpath, hallow, hverdict, hscreen⟩⟩
  · rw [hscreen] at h
    exact absurd h nofun
  · rw [hscreen] at h
    exact absurd h nofun
  · rw [hscreen] at h
    rw [← Option.some.inj h]
    rw [← Callback.dispatch.inj hallow] at hverdict
    have hpeer := ((ofHead_eq_admitted_iff .standard s.routes x.head handler subpath).mp hverdict).1
    rw [AllowList.isAllowed_standard] at hpeer
    exact ⟨x, hx, hpeer⟩

end Service

namespace Server

open Service (Leads leads_refl leads_trans leads_of_apply)

variable {s : Server}

/-! ### The setup -/

/-- A configuration without problems leaves the binding to decide. -/
theorem prepare_of_valid {config : Config} (h : config.problems = [])
    (attempt : Nat → Endpoint → Attempt) :
    ∃ allow endpoints, AllowList.ofEntries config.serving.allow = .ok allow ∧
      Endpoint.choose config.serving.port config.serving.bind config.serving.allow =
        .ok endpoints ∧
      prepare config attempt =
        (if (Listener.bound attempt endpoints).isEmpty then .error .noEndpoints
          else .ok ⟨allow, Listener.bound attempt endpoints⟩,
        allow.announcement :: Endpoint.choiceWarnings config.serving.bind config.serving.allow ++
          Listener.attempts attempt endpoints ++
          if (Listener.bound attempt endpoints).isEmpty then
            [log .error ServerFault.noEndpoints.message] else []) := by
  rcases Config.entries_of_problems h with ⟨hallow, hbind⟩
  rcases AllowList.ofEntries_of_read hallow with ⟨allow, hlist⟩
  rcases Endpoint.readEntries_of_read hbind with ⟨read, hread, _⟩
  -- All entries can be read, so it does not matter whether they are used.
  have hchoose : ∃ endpoints, Endpoint.choose config.serving.port config.serving.bind
      config.serving.allow = .ok endpoints := by
    unfold Endpoint.choose
    by_cases hclosed : (config.serving.bind.isEmpty || config.serving.allow.isEmpty) = true
    · rw [if_pos hclosed]
      exact ⟨_, rfl⟩
    · rw [if_neg hclosed]
      exact ⟨read, hread⟩
  rcases hchoose with ⟨endpoints, hendpoints⟩
  refine ⟨allow, endpoints, hlist, hendpoints, ?_⟩
  unfold prepare
  simp only [h, hlist, hendpoints, Listener.bindAll_eq]
  by_cases hnone : (Listener.bound attempt endpoints).isEmpty = true
  · simp only [if_pos hnone]
  · simp only [if_neg hnone, List.append_nil]

/-- A setup that tries these endpoints, in this order. -/
structure Tries (s : Server) (attempt : Nat → Endpoint → Attempt) (endpoints : List Endpoint) :
    Prop where
  /-- Each attempt is told of, after the allow list and the warnings about the lists. -/
  told : ∃ allow rest, AllowList.ofEntries s.config.serving.allow = .ok allow ∧
    (s.init attempt).2.2 = log .debug "Initializing HTTP server" :: allow.announcement ::
      Endpoint.choiceWarnings s.config.serving.bind s.config.serving.allow ++
        Listener.attempts attempt endpoints ++ rest
  /-- Where none can be bound, the setup fails and changes nothing. -/
  failed : Listener.bound attempt endpoints = [] →
    (s.init attempt).2.1 = .error .noEndpoints ∧ (s.init attempt).1 = s
  /-- Otherwise those that can be bound are kept, with their addresses. -/
  kept : Listener.bound attempt endpoints ≠ [] →
    (s.init attempt).2.1 = .ok () ∧
      (s.init attempt).1.listeners = Listener.bound attempt endpoints ∧
      (s.init attempt).1.addresses = (Listener.bound attempt endpoints).map (·.address)

/-- Setting a server up tries the endpoints that its configuration asks for. -/
theorem tries_of_init (hvalid : s.config.problems = []) (hphase : s.phase = .uninitialized)
    (attempt : Nat → Endpoint → Attempt) :
    ∃ endpoints, Endpoint.choose s.config.serving.port s.config.serving.bind
      s.config.serving.allow = .ok endpoints ∧ Tries s attempt endpoints := by
  rcases prepare_of_valid hvalid attempt with ⟨allow, endpoints, hallow, hendpoints, hprepare⟩
  refine ⟨endpoints, hendpoints, ?_⟩
  -- The setup depends on the host only in whether anything was bound.
  by_cases hnone : (Listener.bound attempt endpoints).isEmpty = true
  · have hinit : s.init attempt = (s, .error .noEndpoints,
        log .debug "Initializing HTTP server" :: allow.announcement ::
          Endpoint.choiceWarnings s.config.serving.bind s.config.serving.allow ++
          Listener.attempts attempt endpoints ++
          [log .error ServerFault.noEndpoints.message]) := by
      simp only [init, if_pos hphase, hprepare, if_pos hnone]
      rfl
    refine ⟨⟨allow, _, hallow, by rw [hinit]⟩, fun _ => ?_, fun hsome => ?_⟩
    · rw [hinit]
      exact ⟨rfl, rfl⟩
    · exact absurd (List.isEmpty_iff.mp hnone) hsome
  · have hinit : s.init attempt = (s.establish ⟨allow, Listener.bound attempt endpoints⟩, .ok (),
        log .debug "Initializing HTTP server" :: allow.announcement ::
          Endpoint.choiceWarnings s.config.serving.bind s.config.serving.allow ++
          Listener.attempts attempt endpoints ++
          [log .info ("creating work queue of depth " ++
            Text.decimal s.config.serving.queueDepth)]) := by
      simp only [init, if_pos hphase, hprepare, if_neg hnone, List.append_nil]
      rfl
    refine ⟨⟨allow, _, hallow, by rw [hinit]⟩, fun hempty => ?_, fun _ => ?_⟩
    · rw [hempty] at hnone
      exact absurd rfl hnone
    · rw [hinit]
      exact ⟨rfl, rfl, rfl⟩

/-- A setup that succeeds without allow entries admits peers on the host only. -/
theorem hostOnly_of_init (hallow : s.config.serving.allow = [])
    {attempt : Nat → Endpoint → Attempt} (hok : (s.init attempt).2.1 = .ok ()) :
    (s.init attempt).1.service.callback = .dispatch .standard ∧
      Service.HostOnly (s.init attempt).1.service ∧ (s.init attempt).1.phase ≠ .uninitialized := by
  rcases init_cases s attempt with ⟨fault, told, hinit⟩ | ⟨setup, told, told', _, hprepare, hinit⟩
  · rw [hinit] at hok
    exact absurd hok nofun
  · have hlist := (listeners_of_prepare s.config attempt setup told hprepare).1
    rw [hallow, AllowList.ofEntries_nil, Except.ok.injEq] at hlist
    rw [hinit]
    have hcallback : (s.establish setup).service.callback = .dispatch .standard := by
      rw [hlist]
      rfl
    refine ⟨hcallback, ⟨⟨List.nodup_nil, ?_⟩, Or.inl hcallback, ?_⟩, nofun⟩
    · exact fun job hmem => absurd hmem List.not_mem_nil
    · exact fun job hmem => absurd hmem List.not_mem_nil

/-! ### After the setup -/

/-- Something that happens to a server. -/
inductive Event where
  /-- Its owner does something. -/
  | owned (op : Operation)
  /-- Something is done to the service that it shares with its reactor and its workers. -/
  | shared (op : Service.Operation)

/-- The server after an event. -/
def happen (s : Server) : Event → Server
  | .owned op => (s.apply op).1
  | .shared op => { s with service := (s.service.apply op).1 }

/-- The server after several events, one after the other. -/
def history (s : Server) (events : List Event) : Server :=
  events.foldl happen s

/-! ### What the owner does -/

/-- A start either is refused, or is abandoned half-way, or succeeds. -/
theorem start_cases (s : Server) (starting : Starting) :
    (s.start starting).1 = s ∨ (s.start starting).1 = ((s.halfStarted starting).stop).1 ∨
      (s.start starting).1 = { s with
        listeners := []
        reactor := some s.listeners
        workers := some s.config.serving.workerThreads
        phase := .running } := by
  by_cases hready : s.phase = .initialized ∧ s.holdsQueue = true
  · right
    rw [(start_eq s starting hready.1 hready.2).2]
    cases starting.outcome with
    | error fault => exact Or.inl rfl
    | ok done => exact Or.inr rfl
  · left
    unfold start
    rw [if_neg hready]

/-- An interrupt either does nothing or halts the server. -/
theorem interrupt_cases (s : Server) : (s.interrupt).1 = s ∨ (s.interrupt).1 = (s.halt).1 := by
  unfold interrupt
  cases s.phase with
  | uninitialized => exact Or.inl rfl
  | initialized => exact Or.inr rfl
  | running => exact Or.inr rfl
  | interrupted => exact Or.inl rfl
  | stopped => exact Or.inl rfl

theorem leads_halt (s : Server) : Leads s.service (s.halt).1.service := by
  have hclosed : Leads s.service.stopAdmitting s.service.stopAdmitting.requestShutdown.1 :=
    leads_of_apply s.service.stopAdmitting .requestShutdown
  have hstopped : Leads s.service.stopAdmitting
      s.service.stopAdmitting.stopQueue.requestShutdown.1 :=
    leads_trans (leads_of_apply s.service.stopAdmitting .stopQueue)
      (leads_of_apply s.service.stopAdmitting.stopQueue .requestShutdown)
  refine leads_trans (leads_of_apply s.service .stopAdmitting) ?_
  unfold halt
  by_cases hqueue : s.holdsQueue = true
  · simp only [if_pos hqueue]
    exact hstopped
  · simp only [if_neg hqueue]
    exact hclosed

theorem leads_dropQueue (s : Server) : Leads s.service (s.dropQueue).1.service := by
  unfold dropQueue
  by_cases hqueue : s.holdsQueue = true
  · rw [if_pos hqueue]
    exact leads_of_apply s.service .release
  · rw [if_neg hqueue]
    exact leads_refl s.service

theorem leads_stop (s : Server) : Leads s.service (s.stop).1.service := by
  have hjoin : Leads s.service s.atJoin.service := by
    unfold atJoin
    by_cases haccepts : s.phase.isAccepting = true
    · rw [if_pos haccepts]
      exact leads_halt s
    · rw [if_neg haccepts]
      exact leads_refl s.service
  by_cases hstopped : s.phase = .stopped
  · unfold stop
    rw [if_pos hstopped]
    exact leads_refl s.service
  · have hservice : (s.stop).1.service =
        (({ s.atJoin with workers := none }).dropQueue).1.service := by
      unfold stop atJoin
      rw [if_neg hstopped]
      by_cases haccepts : s.phase.isAccepting = true
      · simp only [if_pos haccepts]
        rw [joinReactor_frame, joinWorkers_frame]
      · simp only [if_neg haccepts]
        rw [joinReactor_frame, joinWorkers_frame]
    rw [hservice]
    exact leads_trans hjoin (leads_dropQueue { s.atJoin with workers := none })

theorem leads_start (s : Server) (starting : Starting) :
    Leads s.service (s.start starting).1.service := by
  rcases start_cases s starting with hsame | hfailed | hdone
  · rw [hsame]
    exact leads_refl s.service
  · have hhalf : Leads s.service (s.halfStarted starting).service := by
      unfold halfStarted
      cases starting.reactor with
      | error fault => exact leads_refl s.service
      | ok done => exact leads_of_apply s.service .stopQueue
    rw [hfailed]
    exact leads_trans hhalf (leads_stop (s.halfStarted starting))
  · rw [hdone]
    exact leads_refl s.service

/-- Whatever the owner does after the setup is done to the service, one thing at a time. -/
theorem leads_apply (hphase : s.phase ≠ .uninitialized) (op : Operation) :
    Leads s.service (s.apply op).1.service := by
  cases op with
  | register m handler => exact leads_of_apply s.service (.register m handler)
  | unregister m => exact leads_of_apply s.service (.unregister m)
  | init attempt =>
      simp only [apply, init_refused s attempt hphase]
      exact leads_refl s.service
  | start starting => exact leads_start s starting
  | interrupt =>
      simp only [apply]
      rcases interrupt_cases s with hsame | hhalted
      · rw [hsame]
        exact leads_refl s.service
      · rw [hhalted]
        exact leads_halt s
  | stop => exact leads_stop s

theorem phase_stop (s : Server) : (s.stop).1.phase = .stopped := by
  by_cases hstopped : s.phase = .stopped
  · unfold stop
    rw [if_pos hstopped]
    exact hstopped
  · rcases stop_frame s hstopped with ⟨items, xs, hs⟩
    rw [hs]

/-- A server that was set up does not go back to before. -/
theorem phase_apply_ne (hphase : s.phase ≠ .uninitialized) (op : Operation) :
    (s.apply op).1.phase ≠ .uninitialized := by
  cases op with
  | register m handler => exact hphase
  | unregister m => exact hphase
  | init attempt =>
      simp only [apply, init_refused s attempt hphase]
      exact hphase
  | start starting =>
      simp only [apply]
      rcases start_cases s starting with hsame | hfailed | hdone
      · rw [hsame]
        exact hphase
      · rw [hfailed, phase_stop]
        exact Phase.noConfusion
      · rw [hdone]
        exact Phase.noConfusion
  | interrupt =>
      simp only [apply]
      rcases interrupt_cases s with hsame | hhalted
      · rw [hsame]
        exact hphase
      · rw [hhalted]
        exact Phase.noConfusion
  | stop =>
      simp only [apply, phase_stop]
      exact Phase.noConfusion

/-- Whatever happens to a server after its setup is done to its service, by induction along
    what happens. -/
theorem leads_history (events : List Event) :
    ∀ s : Server, s.phase ≠ .uninitialized → Leads s.service (s.history events).service := by
  induction events with
  | nil => exact fun s _ => leads_refl s.service
  | cons e rest ih =>
      intro s hphase
      cases e with
      | owned op =>
          exact leads_trans (leads_apply hphase op) (ih (s.apply op).1 (phase_apply_ne hphase op))
      | shared op =>
          exact leads_trans (leads_of_apply s.service op)
            (ih { s with service := (s.service.apply op).1 } hphase)

/-! ### The configuration -/

theorem config_stop (s : Server) : (s.stop).1.config = s.config := by
  by_cases hstopped : s.phase = .stopped
  · unfold stop
    rw [if_pos hstopped]
  · rcases stop_frame s hstopped with ⟨items, xs, hs⟩
    rw [hs]
    unfold atJoin
    by_cases haccepts : s.phase.isAccepting = true
    · rw [if_pos haccepts]
      rfl
    · rw [if_neg haccepts]

/-- Nothing that the owner does changes the configuration. -/
theorem config_apply (s : Server) (op : Operation) : (s.apply op).1.config = s.config := by
  cases op with
  | register m handler => rfl
  | unregister m => rfl
  | init attempt =>
      rcases init_cases s attempt with ⟨fault, told, hinit⟩ | ⟨setup, told, told', _, _, hinit⟩
      · simp only [apply, hinit]
      · simp only [apply, hinit]
        rfl
  | start starting =>
      simp only [apply]
      rcases start_cases s starting with hsame | hfailed | hdone
      · rw [hsame]
      · rw [hfailed, config_stop]
        unfold halfStarted
        cases starting.reactor with
        | error fault => rfl
        | ok done => rfl
      · rw [hdone]
  | interrupt =>
      simp only [apply]
      rcases interrupt_cases s with hsame | hhalted
      · rw [hsame]
      · rw [hhalted]
        rfl
  | stop => exact config_stop s

theorem config_run (ops : List Operation) : ∀ s : Server, (s.run ops).config = s.config := by
  induction ops with
  | nil => exact fun s => rfl
  | cons op rest ih => exact fun s => (ih (s.apply op).1).trans (config_apply s op)

/-! ### Two decisions -/

/-- What the setup of a server comes to. -/
structure Exposure (s : Server) (attempt : Nat → Endpoint → Attempt) : Prop where
  /-- Unless both lists have entries, the host's own addresses are tried and only they are
      listened on. -/
  closed : s.config.serving.bind = [] ∨ s.config.serving.allow = [] →
    Tries s attempt (Endpoint.loopback s.config.serving.port) ∧
      ∀ l ∈ (s.init attempt).1.listeners,
        (l.endpoint.host = "::1" ∨ l.endpoint.host = "127.0.0.1") ∧
          l.endpoint.port = s.config.serving.port
  /-- Otherwise the bind entries are tried in their order, each with its own port or the one
      of the configuration. -/
  opened : s.config.serving.bind ≠ [] → s.config.serving.allow ≠ [] →
    ∃ endpoints,
      List.Forall₂ (Endpoint.OfEntry s.config.serving.port) s.config.serving.bind endpoints ∧
        Tries s attempt endpoints
  /-- Without allow entries nobody is let in but peers on the host: neither by the callback
      of the setup, whoever holds on to it and whatever the service has become, nor by the
      server after whatever happens to it. -/
  guarded : s.config.serving.allow = [] → (s.init attempt).2.1 = .ok () →
    let next := (s.init attempt).1
    (∀ (t : Service) (number : Nat) (job : Job),
      (t.screen next.service.callback number).2.1 = some job →
        ∃ x, t.exchanges[job.exchange]? = some x ∧ x.head.peer.address.isHost = true) ∧
      ∀ events : List Event,
        let later := (next.history events).service
        (later.callback = next.service.callback ∨ later.callback = .reject) ∧
          (∀ job ∈ later.queue.items, ∃ x, later.exchanges[job.exchange]? = some x ∧
            x.head.peer.address.isHost = true) ∧
          ∀ (head : RequestHead) (body : ByteArray),
            (later.apply (.request head body)).1.queue.items ≠ later.queue.items →
              head.peer.address.isHost = true

theorem mem_loopback {e : Endpoint} {port : UInt16} (h : e ∈ Endpoint.loopback port) :
    (e.host = "::1" ∨ e.host = "127.0.0.1") ∧ e.port = port := by
  simp only [Endpoint.loopback, List.mem_cons, List.not_mem_nil, or_false] at h
  rcases h with heq | heq
  · rw [heq]
    exact ⟨Or.inl rfl, rfl⟩
  · rw [heq]
    exact ⟨Or.inr rfl, rfl⟩

/-- Exposing a server takes two decisions, whatever its configuration and whatever was done
    to it before its setup. -/
theorem exposure_of_init (config : Config) (before : List Operation)
    (attempt : Nat → Endpoint → Attempt) (hvalid : config.problems = [])
    (hphase : ((ofConfig config).run before).phase = .uninitialized) :
    Exposure ((ofConfig config).run before) attempt := by
  have hconfig : ((ofConfig config).run before).config.problems = [] := by
    rw [config_run]
    exact hvalid
  have hunprepared : Unprepared ((ofConfig config).run before) :=
    fits_of_coherent _ .uninitialized
      (coherent_run (ofConfig config) before (coherent_ofConfig config)).1 hphase
  rcases tries_of_init hconfig hphase attempt with ⟨endpoints, hchoose, htries⟩
  constructor
  case closed =>
    intro hclosed
    have hempty : (((ofConfig config).run before).config.serving.bind.isEmpty ||
        ((ofConfig config).run before).config.serving.allow.isEmpty) = true := by
      rcases hclosed with hbind | hallow
      · rw [hbind]
        rfl
      · rw [hallow]
        exact Bool.or_true _
    rw [Endpoint.choose, if_pos hempty, Except.ok.injEq] at hchoose
    rw [hchoose]
    refine ⟨htries, fun l hl => ?_⟩
    by_cases hnone : Listener.bound attempt endpoints = []
    · -- The setup has failed, and there were no listeners before.
      rw [(htries.failed hnone).2, hunprepared.listeners] at hl
      exact absurd hl List.not_mem_nil
    · rw [(htries.kept hnone).2.1] at hl
      refine mem_loopback ?_
      rw [hchoose]
      exact Listener.endpoint_of_bound hl
  case opened =>
    intro hbind hallow
    have hboth : ¬ (((ofConfig config).run before).config.serving.bind.isEmpty ||
        ((ofConfig config).run before).config.serving.allow.isEmpty) = true := by
      rw [Bool.or_eq_true, List.isEmpty_iff, List.isEmpty_iff]
      rintro (hempty | hempty)
      · exact hbind hempty
      · exact hallow hempty
    rcases Endpoint.readEntries_of_read (Config.entries_of_problems hconfig).2 with
      ⟨read, hread, hall⟩
    rw [Endpoint.choose, if_neg hboth, hread, Except.ok.injEq] at hchoose
    rw [← hchoose] at htries
    exact ⟨read, hall, htries⟩
  case guarded =>
    intro hallow hok next
    rcases hostOnly_of_init hallow hok with ⟨hcallback, hhost, hready⟩
    constructor
    · intro t number job hscreen
      rw [hcallback] at hscreen
      exact Service.isHost_of_screen hscreen
    · intro events later
      rcases leads_history events next hready with ⟨ops, hops⟩
      have hlater : Service.HostOnly later := by
        rw [show later = _ from hops]
        exact Service.hostOnly_run ops next.service hhost
      refine ⟨?_, hlater.jobs, fun head body hqueued => Service.isHost_of_queued hlater hqueued⟩
      rw [hcallback]
      exact hlater.callback

/-- A bind entry alone, for every address of the host, leaves the server on the host's own
    ones. Here the first of the two cannot be bound. -/
theorem exposure_without_allow :
    let config : Config := { serving := { bind := ["0.0.0.0:18332"] } }
    let attempt : Nat → Endpoint → Attempt := fun i _ =>
      if i = 0 then .error "no such address" else .ok ⟨.v4 Address.loopback4, 8332, 0⟩
    let s := (ofConfig config).run [.interrupt]
    config.problems = [] ∧ s.phase = .uninitialized ∧ Exposure s attempt ∧
      (s.init attempt).1.listeners =
        [⟨⟨"127.0.0.1", 8332⟩, ⟨.v4 Address.loopback4, 8332, 0⟩⟩] := by
  intro config attempt s
  have hvalid : config.problems = [] := by rfl
  have hphase : s.phase = .uninitialized := by rfl
  have hexposure := exposure_of_init config [.interrupt] attempt hvalid hphase
  have htries := (hexposure.closed (Or.inr rfl)).1
  exact ⟨hvalid, hphase, hexposure, (htries.kept (List.cons_ne_nil _ _)).2.1⟩

end Server

end ControlPlane

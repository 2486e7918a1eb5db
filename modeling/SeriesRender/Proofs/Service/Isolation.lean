import SeriesRender.Proofs.Counters
import SeriesRender.Proofs.Pacing
import SeriesRender.Proofs.Service.Prompt
import SeriesRender.Proofs.Service.Tenant
import SeriesRender.Proofs.Store.Share

/-!
# Tenants do not interfere

What a tenant can tell of a service is its `View` : the settings, the clock, the tenant's share of
the store, the slots it would be given, and its counts. An action of another tenant leaves the view
as it is (`view_after_of_not_concerns`). An action of the tenant itself is answered in the same way
by services with the same view, and leaves them with the same view (`after_congr`). This needs a
service that answers at once, since otherwise the tenants' evaluations share the workers.

`replies_filter_congr` follows a tenant through a history : it is answered in the same way if the
requests of the other tenants are taken out of it (`noninterference`).
-/

namespace SeriesRender

/-! ## What an action is about -/

/-- The tenant that the request is about on a route, if there is one. -/
def HttpRequest.subjectOn (r : HttpRequest) : Route → Option String
  | .render => some (resolveTenant (lastValue? (parameterPairs r.query r.body) "tenant") r.tenant?)
  | .metrics => some r.writer
  | .health => none

/-- The tenant that the request is about, if there is one. -/
def HttpRequest.subject? (r : HttpRequest) : Option String :=
  (Route.ofPath? r.path).bind r.subjectOn

/-- The tenant that the action is about, if there is one. -/
def Action.subject? : Action → Option String
  | wait _ => none
  | start p => some p.tenant
  | answer r => r.subject?
  | drain => none

/-- The action is not about another tenant. -/
def Action.Concerns (tenant : String) (a : Action) : Prop :=
  ∀ subject ∈ a.subject?, subject = tenant

instance (tenant : String) : DecidablePred (Action.Concerns tenant) := fun a =>
  inferInstanceAs (Decidable (∀ subject ∈ a.subject?, subject = tenant))

/-! ## What a tenant sees -/

/-- The tenant's share of what is stored in memory. -/
def Backend.shareOf? : Backend → String → Option (Int × Paths)
  | memory store, tenant => some (store.shareOf tenant)
  | readOnly _, _ => none

/-- What a tenant can tell of a service. -/
@[ext] structure View where
  settings : Settings
  now : Duration
  share : Option (Int × Paths)
  /-- The slot that it would be given after a delay. -/
  slotAfter : Duration → Duration
  counts : Option TenantCounts

/-- What comes of an action : a run, a response with its fetches, or a tenant's counts. -/
inductive Reply
  | nothing
  | run (run : Run)
  | response (response : HttpResponse) (calls : List StoreCall)
  | counts (counts : Option TenantCounts)

namespace Service

/-- What a tenant can see of a service. -/
def view (s : Service) (tenant : String) : View where
  settings := s.settings
  now := s.now
  share := s.backend.shareOf? tenant
  slotAfter delay := s.pacer.slot (s.now + delay) tenant
  counts := s.counters[tenant]?

/-- What a tenant gets to know when an action is made. -/
def reply (s : Service) (tenant : String) : Action → Reply
  | .wait _ => .nothing
  | .start p => .run (s.render p).1
  | .answer r => .response (s.answer r).1 (s.answer r).2.1
  | .drain => .counts s.drainCounters.1[tenant]?

/-- What comes of the actions of a history that are not about another tenant. -/
def replies (s : Service) (tenant : String) : List Action → List Reply
  | [] => []
  | a :: as =>
    if a.Concerns tenant then s.reply tenant a :: (s.after a).replies tenant as
    else (s.after a).replies tenant as

end Service

/-! ## Counts -/

namespace Counters

variable {own shared : Counters} {tenant other : String}

/-- Counting for a tenant depends on its own counts only. -/
theorem getElem?_update_congr (h : own[tenant]? = shared[tenant]?)
    (f : TenantCounts → TenantCounts) :
    (own.update tenant f)[tenant]? = (shared.update tenant f)[tenant]? := by
  rw [getElem?_update, getElem?_update, get, get, h]

theorem getElem?_addThrottleTime_of_ne (h : tenant ≠ other) (counters : Counters)
    (seconds : Float) :
    (counters.addThrottleTime tenant seconds)[other]? = counters[other]? := by
  unfold addThrottleTime
  split
  · rw [getElem?_update, if_neg h]
  · rfl

theorem getElem?_addThrottleTime_congr (h : own[tenant]? = shared[tenant]?) (seconds : Float) :
    (own.addThrottleTime tenant seconds)[tenant]? =
      (shared.addThrottleTime tenant seconds)[tenant]? := by
  unfold addThrottleTime
  split
  · exact getElem?_update_congr h _
  · exact h

end Counters

namespace Service

variable {s t : Service} {tenant : String}

/-- Views are the same when their parts are. Of a pacer only the slots from now on count, since it
may have forgotten those that have passed. -/
theorem view_eq_iff : s.view tenant = t.view tenant ↔
    s.settings = t.settings ∧ s.now = t.now ∧
      s.backend.shareOf? tenant = t.backend.shareOf? tenant ∧
      (∀ later, s.now ≤ later → s.pacer.slot later tenant = t.pacer.slot later tenant) ∧
      s.counters[tenant]? = t.counters[tenant]? := by
  constructor
  · intro hv
    have hnow : s.now = t.now := congrArg View.now hv
    refine ⟨congrArg View.settings hv, hnow, congrArg View.share hv, fun later h => ?_,
      congrArg View.counts hv⟩
    have hslot := congrFun (congrArg View.slotAfter hv) (later - s.now)
    dsimp only [view] at hslot
    rwa [← hnow, Nat.add_sub_cancel' h] at hslot
  · rintro ⟨hsettings, hnow, hshare, hslot, hcounts⟩
    refine View.ext hsettings hnow hshare (funext fun delay => ?_) hcounts
    dsimp only [view]
    rw [← hnow]
    exact hslot _ (Nat.le_add_right _ _)

/-- The pool is no part of what a tenant sees. -/
theorem view_withPool (s : Service) (pool : Pool) (tenant : String) :
    { s with pool }.view tenant = s.view tenant := rfl

theorem view_withBackend (s : Service) (backend : Backend) (tenant : String) :
    { s with backend }.view tenant =
      { s.view tenant with share := backend.shareOf? tenant } := rfl

/-! ## Taking a slot -/

theorem view_accept_of_ne {other : String} (h : other ≠ tenant) :
    (s.accept other).2.view tenant = s.view tenant := by
  refine view_eq_iff.2 ⟨rfl, rfl, rfl, fun later hl => Pacer.slot_reserve_of_ne h hl, ?_⟩
  change ((s.counters.countRequest other).addThrottleTime other _)[tenant]? = _
  rw [Counters.getElem?_addThrottleTime_of_ne h, Counters.countRequest,
    Counters.getElem?_update, if_neg h]

/-- How a request is accepted depends on what its tenant sees. -/
theorem accept_congr (hv : s.view tenant = t.view tenant) :
    (s.accept tenant).1 = (t.accept tenant).1 ∧
      (s.accept tenant).2.view tenant = (t.accept tenant).2.view tenant := by
  obtain ⟨hsettings, hnow, hshare, hslot, hcounts⟩ := view_eq_iff.1 hv
  have hwait : (s.accept tenant).1 = (t.accept tenant).1 := by
    change (s.pacer.reserve s.settings.limits s.now tenant).1 =
      (t.pacer.reserve t.settings.limits t.now tenant).1
    rw [← hsettings, ← hnow]
    exact Pacer.wait_reserve_congr (hslot s.now (Nat.le_refl _))
  refine ⟨hwait, view_eq_iff.2 ⟨hsettings, hnow, hshare, fun later hl => ?_, ?_⟩⟩
  · change (s.pacer.reserve s.settings.limits s.now tenant).2.slot later tenant =
      (t.pacer.reserve t.settings.limits t.now tenant).2.slot later tenant
    rw [← hsettings, ← hnow]
    exact Pacer.slot_reserve_congr hslot hl
  · change ((s.counters.countRequest tenant).addThrottleTime tenant
        (s.accept tenant).1.seconds)[tenant]? =
      ((t.counters.countRequest tenant).addThrottleTime tenant (t.accept tenant).1.seconds)[tenant]?
    rw [hwait]
    exact Counters.getElem?_addThrottleTime_congr (Counters.getElem?_update_congr hcounts _) _

/-! ## Rendering -/

theorem view_render_of_ne (hs : s.IsPrompt) {p : Parameters} (h : p.tenant ≠ tenant) :
    (s.render p).2.view tenant = s.view tenant := by
  cases hc : s.settings.render.check p with
  | error e => rw [render, hc]
  | ok targets =>
    rw [hs.render_eq hc]
    split
    · exact view_accept_of_ne h
    · exact (view_withPool (s.accept p.tenant).2 _ tenant).trans (view_accept_of_ne h)

/-- Behind the same views are stores with the same share. -/
theorem shareOf_of_view_eq (hs : s.IsPrompt) (ht : t.IsPrompt)
    (hv : s.view tenant = t.view tenant) : ∃ store store', s.backend = .memory store ∧
      t.backend = .memory store' ∧ store.shareOf tenant = store'.shareOf tenant := by
  obtain ⟨store, hstore⟩ := hs.memory
  obtain ⟨store', hstore'⟩ := ht.memory
  obtain ⟨-, -, hshare, -⟩ := view_eq_iff.1 hv
  rw [hstore, hstore'] at hshare
  exact ⟨store, store', hstore, hstore', Option.some.inj hshare⟩

/-- An evaluation depends on the tenant's share only. -/
theorem evaluation_congr (hs : s.IsPrompt) (ht : t.IsPrompt) {p : Parameters}
    (hv : s.view p.tenant = t.view p.tenant) (targets : List Target.Expr) :
    s.evaluation p targets = t.evaluation p targets := by
  obtain ⟨store, store', hstore, hstore', hshare⟩ := shareOf_of_view_eq hs ht hv
  obtain ⟨hsettings, -⟩ := view_eq_iff.1 hv
  have hsource : s.backend.source p.tenant p.start p.stop =
      t.backend.source p.tenant p.start p.stop := by
    rw [hstore, hstore']
    funext pattern
    exact congrArg (Answer.mk 0) (MemoryStore.fetch_congr hshare pattern p.start p.stop)
  rw [evaluation, evaluation, hsettings, hsource]

theorem render_congr (hs : s.IsPrompt) (ht : t.IsPrompt) {p : Parameters}
    (hv : s.view p.tenant = t.view p.tenant) :
    (s.render p).1 = (t.render p).1 ∧
      (s.render p).2.view p.tenant = (t.render p).2.view p.tenant := by
  obtain ⟨hsettings, hnow, -⟩ := view_eq_iff.1 hv
  cases hc : s.settings.render.check p with
  | error e =>
    rw [render, render, ← hsettings, hc]
    exact ⟨by rw [hnow], hv⟩
  | ok targets =>
    obtain ⟨hwait, hview⟩ := accept_congr hv
    rw [hs.render_eq hc, ht.render_eq (hsettings ▸ hc), ← hwait, ← hsettings, ← hnow,
      ← evaluation_congr hs ht hv]
    split
    · exact ⟨rfl, hview⟩
    · exact ⟨rfl, hview⟩

/-! ## Requests over HTTP -/

theorem view_answerMetrics_of_ne (hs : s.IsPrompt) {r : HttpRequest} (h : r.writer ≠ tenant) :
    (s.answerMetrics r).2.view tenant = s.view tenant := by
  obtain ⟨store, hstore⟩ := hs.memory
  rcases Nat.lt_or_ge 1 r.namedTenants.length with hmany | hone
  · rw [answerMetrics_of_many hmany]
  · rw [answerMetrics_of_memory hstore hone, view_withBackend, Backend.shareOf?,
      MemoryStore.shareOf_ingest_of_ne h, ← Backend.shareOf?, ← hstore]
    rfl

/-- What happens to a write depends on what its writer sees. -/
theorem answerMetrics_congr (hs : s.IsPrompt) (ht : t.IsPrompt) {r : HttpRequest}
    (hv : s.view r.writer = t.view r.writer) : (s.answerMetrics r).1 = (t.answerMetrics r).1 ∧
      (s.answerMetrics r).2.view r.writer = (t.answerMetrics r).2.view r.writer := by
  obtain ⟨store, store', hstore, hstore', hshare⟩ := shareOf_of_view_eq hs ht hv
  rcases Nat.lt_or_ge 1 r.namedTenants.length with hmany | hone
  · rw [answerMetrics_of_many hmany, answerMetrics_of_many hmany]
    exact ⟨rfl, hv⟩
  · obtain ⟨hresult, hafter⟩ := MemoryStore.ingest_congr hshare r.body
    rw [answerMetrics_of_memory hstore hone, answerMetrics_of_memory hstore' hone,
      view_withBackend, view_withBackend, hv, hresult, Backend.shareOf?, hafter]
    exact ⟨rfl, rfl⟩

theorem view_answerOn_of_ne (hs : s.IsPrompt) {r : HttpRequest} {route : Route} {subject : String}
    (hsubject : r.subjectOn route = some subject) (h : subject ≠ tenant) :
    (s.answerOn r route).2.2.view tenant = s.view tenant := by
  cases route with
  | render =>
    rw [hs.answerOn_render_eq]
    cases hp : Parameters.read r.query r.body r.tenant? r.time with
    | error fault => rfl
    | ok p =>
      have hsame : p.tenant = subject := (tenant_of_read hp).trans (Option.some.inj hsubject)
      exact view_render_of_ne hs (hsame ▸ h)
  | metrics =>
    rw [answerOn_metrics]
    dsimp only
    exact view_answerMetrics_of_ne hs (Option.some.inj hsubject ▸ h)
  | health => cases hsubject

theorem answerOn_congr (hs : s.IsPrompt) (ht : t.IsPrompt) (hv : s.view tenant = t.view tenant)
    {r : HttpRequest} {route : Route} (h : ∀ subject ∈ r.subjectOn route, subject = tenant) :
    (s.answerOn r route).1 = (t.answerOn r route).1 ∧
      (s.answerOn r route).2.1 = (t.answerOn r route).2.1 ∧
      (s.answerOn r route).2.2.view tenant = (t.answerOn r route).2.2.view tenant := by
  cases route with
  | render =>
    rw [hs.answerOn_render_eq, ht.answerOn_render_eq]
    cases hp : Parameters.read r.query r.body r.tenant? r.time with
    | error fault => exact ⟨rfl, rfl, hv⟩
    | ok p =>
      obtain rfl : p.tenant = tenant := (tenant_of_read hp).trans (h _ rfl)
      obtain ⟨hrun, hview⟩ := render_congr hs ht hv
      dsimp only
      rw [hrun]
      exact ⟨rfl, rfl, hview⟩
  | metrics =>
    obtain rfl : r.writer = tenant := h _ rfl
    obtain ⟨hresponse, hview⟩ := answerMetrics_congr hs ht hv
    rw [answerOn_metrics, answerOn_metrics]
    dsimp only
    exact ⟨hresponse, rfl, hview⟩
  | health => exact ⟨rfl, rfl, hv⟩

/-! ## One action -/

theorem view_answer_of_ne (hs : s.IsPrompt) {r : HttpRequest} {subject : String}
    (hsubject : r.subject? = some subject) (h : subject ≠ tenant) :
    (s.answer r).2.2.view tenant = s.view tenant := by
  unfold HttpRequest.subject? at hsubject
  cases hr : Route.ofPath? r.path with
  | none => rw [answer, hr]
  | some route =>
    rw [hr, Option.bind_some] at hsubject
    by_cases hm : r.method ∈ route.methods
    · rw [s.answer_of_route hr hm]
      exact view_answerOn_of_ne hs hsubject h
    · rw [answer, hr]
      dsimp only
      rw [if_neg hm]

theorem answer_congr (hs : s.IsPrompt) (ht : t.IsPrompt) (hv : s.view tenant = t.view tenant)
    {r : HttpRequest} (h : ∀ subject ∈ r.subject?, subject = tenant) :
    (s.answer r).1 = (t.answer r).1 ∧ (s.answer r).2.1 = (t.answer r).2.1 ∧
      (s.answer r).2.2.view tenant = (t.answer r).2.2.view tenant := by
  unfold HttpRequest.subject? at h
  cases hr : Route.ofPath? r.path with
  | none =>
    rw [answer, answer, hr]
    exact ⟨rfl, rfl, hv⟩
  | some route =>
    rw [hr, Option.bind_some] at h
    rw [answer, answer, hr]
    dsimp only
    by_cases hm : r.method ∈ route.methods
    · obtain ⟨hresponse, hcalls, hview⟩ := answerOn_congr hs ht hv h
      rw [if_pos hm, if_pos hm]
      dsimp only
      rw [hresponse]
      exact ⟨rfl, hcalls, hview⟩
    · rw [if_neg hm, if_neg hm]
      exact ⟨rfl, rfl, hv⟩

/-- An action concerns a tenant unless it has another one as its subject. -/
theorem not_concerns_iff {a : Action} : ¬a.Concerns tenant ↔
    ∃ subject, a.subject? = some subject ∧ subject ≠ tenant := by
  simp [Action.Concerns]

/-- An action of another tenant is not seen. -/
theorem view_after_of_not_concerns (hs : s.IsPrompt) {a : Action} (h : ¬a.Concerns tenant) :
    (s.after a).view tenant = s.view tenant := by
  obtain ⟨subject, hsubject, hne⟩ := not_concerns_iff.1 h
  cases a with
  | wait d => cases hsubject
  | drain => cases hsubject
  | start p =>
    obtain rfl := Option.some.inj hsubject
    exact view_render_of_ne hs hne
  | answer r => exact view_answer_of_ne hs hsubject hne

theorem view_wait_congr (hv : s.view tenant = t.view tenant) (d : Duration) :
    (s.wait d).view tenant = (t.wait d).view tenant := by
  obtain ⟨hsettings, hnow, hshare, hslot, hcounts⟩ := view_eq_iff.1 hv
  refine view_eq_iff.2 ⟨hsettings, congrArg (· + d) hnow, hshare, fun later h => ?_, hcounts⟩
  exact hslot later (Nat.le_trans (Nat.le_add_right _ _) h)

/-- An action of the tenant, or of nobody, is answered by what the tenant sees. -/
theorem after_congr (hs : s.IsPrompt) (ht : t.IsPrompt) (hv : s.view tenant = t.view tenant)
    {a : Action} (h : a.Concerns tenant) :
    s.reply tenant a = t.reply tenant a ∧ (s.after a).view tenant = (t.after a).view tenant := by
  cases a with
  | wait d => exact ⟨rfl, view_wait_congr hv d⟩
  | drain =>
    obtain ⟨hsettings, hnow, hshare, hslot, hcounts⟩ := view_eq_iff.1 hv
    exact ⟨congrArg Reply.counts hcounts,
      view_eq_iff.2 ⟨hsettings, hnow, hshare, hslot, rfl⟩⟩
  | start p =>
    obtain rfl : p.tenant = tenant := h _ rfl
    obtain ⟨hrun, hview⟩ := render_congr hs ht hv
    exact ⟨congrArg Reply.run hrun, hview⟩
  | answer r =>
    obtain ⟨hresponse, hcalls, hview⟩ := answer_congr hs ht hv h
    refine ⟨?_, hview⟩
    rw [reply, reply, hresponse, hcalls]

/-! ## Histories -/

/-- By induction, a tenant is replied to as if its own actions had been all. -/
theorem replies_filter_congr (hs : s.IsPrompt) (ht : t.IsPrompt)
    (hv : s.view tenant = t.view tenant) (actions : List Action) :
    s.replies tenant actions = t.replies tenant (actions.filter (·.Concerns tenant)) ∧
      (s.afterAll actions).view tenant =
        (t.afterAll (actions.filter (·.Concerns tenant))).view tenant := by
  induction actions generalizing s t with
  | nil => exact ⟨rfl, hv⟩
  | cons a as ih =>
    by_cases h : a.Concerns tenant
    · obtain ⟨hreply, hview⟩ := after_congr hs ht hv h
      obtain ⟨hreplies, hviews⟩ := ih (hs.after a) (ht.after a) hview
      rw [List.filter_cons_of_pos (by simpa using h), replies, replies, if_pos h, if_pos h, hreply,
        hreplies]
      exact ⟨rfl, hviews⟩
    · -- The other service stays where it is, and its view is still the same.
      rw [List.filter_cons_of_neg (by simpa using h), replies, if_neg h]
      exact ih (hs.after a) ht ((view_after_of_not_concerns hs h).trans hv)

/-- Take the requests of all other tenants out of a history : everything that the tenant is answered
stays the same, and so do its paths and its counts in the end. -/
theorem noninterference {settings : Settings} (h : 0 < settings.render.requestTimeout)
    (store : MemoryStore) (tenant : String) (actions : List Action) :
    (launch settings (.memory store)).replies tenant actions =
        (launch settings (.memory store)).replies tenant (actions.filter (·.Concerns tenant)) ∧
      (∃ shared own,
        ((launch settings (.memory store)).afterAll actions).backend = .memory shared ∧
        ((launch settings (.memory store)).afterAll
          (actions.filter (·.Concerns tenant))).backend = .memory own ∧
        shared.pathsOf tenant = own.pathsOf tenant ∧
        ∀ pattern start stop, shared.fetch tenant pattern start stop =
          own.fetch tenant pattern start stop) ∧
      ((launch settings (.memory store)).afterAll actions).counters[tenant]? =
        ((launch settings (.memory store)).afterAll
          (actions.filter (·.Concerns tenant))).counters[tenant]? := by
  have hs := isPrompt_launch h store
  obtain ⟨hreplies, hview⟩ := replies_filter_congr hs hs (Eq.refl (view _ tenant)) actions
  obtain ⟨shared, own, hshared, hown, hshare⟩ :=
    shareOf_of_view_eq (hs.afterAll actions) (hs.afterAll _) hview
  exact ⟨hreplies, ⟨shared, own, hshared, hown, congrArg Prod.snd hshare,
    MemoryStore.fetch_congr hshare⟩, congrArg View.counts hview⟩

theorem subject?_filing : (filing "globex").subject? = some "globex" ∧
    (filing "acme").subject? = some "acme" ∧ (lookup "acme").subject? = some "acme" := by
  decide +kernel

/-- Of two tenants that write to the same path, one does not see what the other one writes. -/
theorem noninterference_filing : 0 < Settings.standard.render.requestTimeout ∧
    (inMemory .standard).replies "acme"
        [.answer (filing "acme"), .answer (filing "globex"), .answer (lookup "acme")] =
      (inMemory .standard).replies "acme" [.answer (filing "acme"), .answer (lookup "acme")] := by
  obtain ⟨hglobex, hacme, hlookup⟩ := subject?_filing
  have hfilter : [Action.answer (filing "acme"), .answer (filing "globex"),
      .answer (lookup "acme")].filter (·.Concerns "acme") =
        [.answer (filing "acme"), .answer (lookup "acme")] := by
    simp [Action.Concerns, Action.subject?, hglobex, hacme, hlookup]
  have hpositive : 0 < Settings.standard.render.requestTimeout := by
    decide
  refine ⟨hpositive, ?_⟩
  rw [← hfilter]
  exact (noninterference hpositive (.empty Settings.standard.storage.step) "acme" _).1

end Service

end SeriesRender

import SeriesRender.Proofs.Service.History
import SeriesRender.Proofs.Store

/-!
# Points posted together

A text of points is read before anything is written, so a malformed line rejects it as a whole.
The points are then written in the order of their lines, and one without a slot ends that with an
error, but the points before it stay written. `HttpRequest.Torn` says when this happens;
`ingest_all_or_nothing_iff` says that every other request writes all of its points or none.
-/

namespace SeriesRender

/-! ## Lines -/

namespace Point

/-- The lines of a text that are to hold a point. -/
def linesOf (text : String) : List (List Char) :=
  (Text.lines text.toList).filter fun line => !Text.isAllBlank line

/-- Lines are points if each of them that is not blank is one. -/
theorem ofLines_eq_ok_iff {number : Nat} {lines : List (List Char)} {points : List Point} :
    ofLines number lines = .ok points ↔
      (lines.filter fun line => !Text.isAllBlank line).map ofLine? = points.map some := by
  induction lines generalizing number points with
  | nil => cases points <;> simp [ofLines]
  | cons line lines ih =>
    rw [ofLines]
    by_cases hb : Text.isAllBlank line = true
    · simp [hb, ih]
    · rw [if_neg hb, List.filter_cons_of_pos (by simpa using hb), List.map_cons]
      cases ofLine? line with
      | none => cases points <;> simp
      | some point =>
        dsimp only
        rw [map_eq_ok_iff]
        constructor
        · rintro ⟨ps, hps, rfl⟩
          rw [List.map_cons, ih.1 hps]
        · intro h
          cases points with
          | nil => cases h
          | cons p ps =>
            rw [List.map_cons, List.cons.injEq] at h
            obtain ⟨hp, hps⟩ := h
            exact ⟨ps, ih.2 hps, by rw [Option.some.inj hp]⟩

/-- A text is read when each of its lines that is not blank holds a point. -/
theorem ofText_eq_ok_iff {text : String} {points : List Point} :
    ofText text = .ok points ↔ (linesOf text).map ofLine? = points.map some :=
  ofLines_eq_ok_iff

/-- Whether there is a slot for the point. -/
def Fits (step : Int) (p : Point) : Prop :=
  (MemoryStore.slot? step p.timestamp).isSome

/-- The value that points leave at a slot of a path : that of the last one there. -/
def lastAt (step : Int) (path : String) (slot : Int) (points : List Point) : Option Float :=
  let there := points.filter fun p =>
    p.path = path ∧ MemoryStore.slot? step p.timestamp = some slot
  there.getLast?.map (·.value)

theorem lastAt_cons (step : Int) (path : String) (slot : Int) (p : Point) (ps : List Point) :
    lastAt step path slot (p :: ps) = (lastAt step path slot ps).or
      (if p.path = path ∧ MemoryStore.slot? step p.timestamp = some slot then some p.value
      else none) := by
  unfold lastAt
  dsimp only
  rw [List.filter_cons]
  by_cases h : p.path = path ∧ MemoryStore.slot? step p.timestamp = some slot
  · rw [if_pos (by simpa using h), if_pos h, List.getLast?_cons]
    cases (ps.filter _).getLast? <;> rfl
  · rw [if_neg (by simpa using h), if_neg h, Option.or_none]

/-- A slot with a point in it has a last one. -/
theorem isSome_lastAt {step slot : Int} {points : List Point} {p : Point} (hp : p ∈ points)
    (hslot : MemoryStore.slot? step p.timestamp = some slot) :
    (lastAt step p.path slot points).isSome := by
  rw [lastAt, Option.isSome_map, List.getLast?_isSome]
  exact List.ne_nil_of_mem (List.mem_filter.2 ⟨hp, by simp [hslot]⟩)

end Point

/-! ## Points -/

namespace MemoryStore

/-- Write points one after the other, provided that all of them can be written. -/
def writeAll (s : MemoryStore) (tenant : String) (points : List Point) :
    Except StoreError MemoryStore :=
  points.foldlM (fun s p => s.insert tenant p.path p.timestamp p.value) s

variable {s t : MemoryStore} {tenant : String}

/-- Points are written if each of them has a slot. -/
theorem writeAll_cons_eq_ok_iff {p : Point} {ps : List Point} :
    s.writeAll tenant (p :: ps) = .ok t ↔ ∃ slot, slot? s.step p.timestamp = some slot ∧
      (s.write tenant p.path slot p.value).writeAll tenant ps = .ok t := by
  rw [writeAll, List.foldlM_cons, bind_eq_ok_iff]
  constructor
  · rintro ⟨_, hinsert, h⟩
    obtain ⟨slot, hslot, rfl⟩ := insert_eq_ok_iff.1 hinsert
    exact ⟨slot, hslot, h⟩
  · rintro ⟨slot, hslot, h⟩
    exact ⟨_, insert_eq_ok_iff.2 ⟨slot, hslot, rfl⟩, h⟩

theorem insertAll_cons {p : Point} {ps : List Point} {slot : Int}
    (h : slot? s.step p.timestamp = some slot) :
    s.insertAll tenant (p :: ps) = (s.write tenant p.path slot p.value).insertAll tenant ps := by
  rw [insertAll, insert, h]

/-- Points are written up to the first one without a slot. -/
theorem insertAll_cases (s : MemoryStore) (tenant : String) (points : List Point) :
    ((∀ p ∈ points, p.Fits s.step) ∧
      ∃ t, s.writeAll tenant points = .ok t ∧ s.insertAll tenant points = (.ok (), t)) ∨
    ∃ before p after t, points = before ++ p :: after ∧ (∀ b ∈ before, b.Fits s.step) ∧
      ¬p.Fits s.step ∧ s.writeAll tenant before = .ok t ∧
      s.insertAll tenant points = (.error (.outOfRange p.timestamp), t) := by
  induction points generalizing s with
  | nil => exact Or.inl ⟨by simp, s, rfl, rfl⟩
  | cons p ps ih =>
    cases hslot : slot? s.step p.timestamp with
    | none =>
      refine Or.inr ⟨[], p, ps, s, rfl, by simp, by simp [Point.Fits, hslot], rfl, ?_⟩
      rw [insertAll, insert, hslot]
    | some slot =>
      have hp : p.Fits s.step := by simp [Point.Fits, hslot]
      rcases ih (s.write tenant p.path slot p.value) with
        ⟨hps, t, hw, hi⟩ | ⟨before, q, after, t, rfl, hbefore, hq, hw, hi⟩
      · refine Or.inl ⟨List.forall_mem_cons.2 ⟨hp, hps⟩, t, ?_, ?_⟩
        · exact writeAll_cons_eq_ok_iff.2 ⟨slot, hslot, hw⟩
        · rw [insertAll_cons hslot, hi]
      · refine Or.inr ⟨p :: before, q, after, t, rfl, List.forall_mem_cons.2 ⟨hp, hbefore⟩, hq,
          ?_, ?_⟩
        · exact writeAll_cons_eq_ok_iff.2 ⟨slot, hslot, hw⟩
        · rw [insertAll_cons hslot, hi]

/-- How the points of a text are written, or why not. -/
theorem ingest_cases (s : MemoryStore) (tenant text : String) :
    (∃ e, Point.ofText text = .error e ∧ s.ingest tenant text = (.error e, s)) ∨
    (∃ points t, Point.ofText text = .ok points ∧ (∀ p ∈ points, p.Fits s.step) ∧
      s.writeAll tenant points = .ok t ∧ s.ingest tenant text = (.ok (), t)) ∨
    ∃ before p after t, Point.ofText text = .ok (before ++ p :: after) ∧
      (∀ b ∈ before, b.Fits s.step) ∧ ¬p.Fits s.step ∧ s.writeAll tenant before = .ok t ∧
      s.ingest tenant text = (.error (.outOfRange p.timestamp), t) := by
  unfold ingest
  cases Point.ofText text with
  | error e => exact Or.inl ⟨e, rfl, rfl⟩
  | ok points =>
    rcases s.insertAll_cases tenant points with
      ⟨hfits, t, hw, hi⟩ | ⟨before, p, after, t, rfl, hbefore, hp, hw, hi⟩
    · exact Or.inr (Or.inl ⟨points, t, rfl, hfits, hw, hi⟩)
    · exact Or.inr (Or.inr ⟨before, p, after, t, rfl, hbefore, hp, hw, hi⟩)

/-- The last point wins : what is at a slot after points were written. -/
theorem getElem?_writeAll {points : List Point} (h : s.writeAll tenant points = .ok t)
    (path : String) (slot : Int) : (t.slotsAt tenant path)[slot]? =
      (Point.lastAt s.step path slot points).or (s.slotsAt tenant path)[slot]? := by
  induction points generalizing s with
  | nil =>
    cases h
    rfl
  | cons p ps ih =>
    obtain ⟨first, hp, h⟩ := writeAll_cons_eq_ok_iff.1 h
    rw [ih h, step_write, Point.lastAt_cons, Option.or_assoc, slotsAt_write, hp]
    congr 1
    by_cases hpath : p.path = path
    · subst hpath
      rw [if_pos ⟨rfl, rfl⟩, Std.TreeMap.getElem?_insert]
      by_cases hslot : first = slot
      · simp [hslot]
      · simp [hslot]
    · simp [hpath]

/-- A store in which a point found its slot free has changed. -/
theorem ne_of_writeAll {points : List Point} (h : s.writeAll tenant points = .ok t) {p : Point}
    (hp : p ∈ points) {slot : Int} (hslot : slot? s.step p.timestamp = some slot)
    (hfree : (s.slotsAt tenant p.path)[slot]? = none) : t ≠ s := by
  rintro rfl
  have hvalue := getElem?_writeAll h p.path slot
  rw [hfree, Option.or_none] at hvalue
  have hsome := Point.isSome_lastAt hp hslot
  rw [← hvalue] at hsome
  cases hsome

/-- Points of one tenant leave the others' paths as they are. -/
theorem slotsAt_writeAll_of_ne {points : List Point} (h : s.writeAll tenant points = .ok t)
    {other : String} (hne : tenant ≠ other) (path : String) :
    t.slotsAt other path = s.slotsAt other path := by
  induction points generalizing s with
  | nil =>
    cases h
    rfl
  | cons p ps ih =>
    obtain ⟨slot, -, h⟩ := writeAll_cons_eq_ok_iff.1 h
    rw [ih h, slotsAt_write, if_neg fun heq => hne heq.1]

end MemoryStore

/-! ## Requests -/

/-- The values of the parameter that names the tenant to write for. -/
def HttpRequest.namedTenants (r : HttpRequest) : List String :=
  allValues (Text.formPairs (Text.bytes r.query.toList)) "tenant"

/-- The tenant to write for. -/
def HttpRequest.writer (r : HttpRequest) : String :=
  writingTenant r.namedTenants.head? r.tenant?

/-- The request brings a point that cannot be written behind others that can. -/
def HttpRequest.Torn (r : HttpRequest) (step : Int) : Prop :=
  r.namedTenants.length ≤ 1 ∧ ∃ before p after, before ≠ [] ∧
    Point.ofText r.body = .ok (before ++ p :: after) ∧
      (∀ b ∈ before, b.Fits step) ∧ ¬p.Fits step

namespace Service

variable {s : Service} {store : MemoryStore} {r : HttpRequest}

/-- Points that are posted go to the store. -/
theorem answer_post (hr : Route.ofPath? r.path = some .metrics) (hm : r.method = "POST") :
    s.answer r = ((s.answerMetrics r).1, [], (s.answerMetrics r).2) := by
  rw [answer, hr]
  dsimp only
  rw [if_pos (by rw [hm]; decide), if_neg (by rw [hm]; decide), answerOn_metrics]

/-- A tenant that is named twice is refused at once. -/
theorem answerMetrics_of_many (h : 1 < r.namedTenants.length) : s.answerMetrics r =
    (.text 400 "Failed to deserialize query string: duplicate field `tenant`", s) := by
  unfold HttpRequest.namedTenants at h
  unfold answerMetrics
  rcases hn : allValues (Text.formPairs (Text.bytes r.query.toList)) "tenant" with
    _ | ⟨a, _ | ⟨b, rest⟩⟩
  · simp [hn] at h
  · simp [hn] at h
  · rfl

theorem answerMetrics_of_memory (hs : s.backend = .memory store) (h : r.namedTenants.length ≤ 1) :
    s.answerMetrics r = (.ofIngest (store.ingest r.writer r.body).1,
      { s with backend := .memory (store.ingest r.writer r.body).2 }) := by
  unfold HttpRequest.writer HttpRequest.namedTenants at *
  unfold answerMetrics
  rw [hs, Backend.writable?]
  rcases hn : allValues (Text.formPairs (Text.bytes r.query.toList)) "tenant" with
    _ | ⟨a, _ | ⟨b, rest⟩⟩
  · rfl
  · rfl
  · simp [hn] at h

/-- A torn request is torn at one point. -/
theorem not_torn_cons {p : Point} {after : List Point} {step : Int}
    (h : Point.ofText r.body = .ok (p :: after)) (hp : ¬p.Fits step) : ¬r.Torn step := by
  rintro ⟨-, before, q, rest, hne, htext, hbefore, -⟩
  cases before with
  | nil => exact hne rfl
  | cons b bs =>
    have heq := Except.ok.inj (h.symm.trans htext)
    rw [List.cons_append, List.cons.injEq] at heq
    exact hp (heq.1 ▸ hbefore b List.mem_cons_self)

/-- What becomes of a request that brings points : it writes all of them, or none, or it is torn and
writes those before the first one without a slot. -/
theorem answer_cases (hs : s.backend = .memory store) (hr : Route.ofPath? r.path = some .metrics)
    (hm : r.method = "POST") :
    ((s.answer r).1.status = 204 ∧ ¬r.Torn store.step ∧ ∃ points t,
      Point.ofText r.body = .ok points ∧ store.writeAll r.writer points = .ok t ∧
        (s.answer r).2.2 = { s with backend := .memory t }) ∨
    ((s.answer r).1.status = 400 ∧ ¬r.Torn store.step ∧ (s.answer r).2.2 = s) ∨
    ((s.answer r).1.status = 400 ∧ r.Torn store.step ∧ ∃ before p after t, before ≠ [] ∧
      Point.ofText r.body = .ok (before ++ p :: after) ∧ (∀ b ∈ before, b.Fits store.step) ∧
        ¬p.Fits store.step ∧ store.writeAll r.writer before = .ok t ∧
          (s.answer r).2.2 = { s with backend := .memory t }) := by
  have hself : { s with backend := .memory store } = s := by
    rw [← hs]
  rw [answer_post hr hm]
  dsimp only
  rcases Nat.lt_or_ge 1 r.namedTenants.length with hmany | hone
  · rw [answerMetrics_of_many hmany]
    refine Or.inr (Or.inl ⟨rfl, ?_, rfl⟩)
    rintro ⟨hone, -⟩
    exact Nat.not_le_of_lt hmany hone
  · rw [answerMetrics_of_memory hs hone]
    rcases store.ingest_cases r.writer r.body with ⟨e, htext, hi⟩ |
      ⟨points, t, htext, hfits, hw, hi⟩ | ⟨before, p, after, t, htext, hbefore, hp, hw, hi⟩
    · rw [hi]
      refine Or.inr (Or.inl ⟨rfl, ?_, hself⟩)
      rintro ⟨-, before, p, after, -, htorn, -⟩
      rw [htorn] at htext
      cases htext
    · rw [hi]
      refine Or.inl ⟨rfl, ?_, points, t, htext, hw, rfl⟩
      rintro ⟨-, before, p, after, -, htorn, -, hp⟩
      obtain rfl := Except.ok.inj (htext.symm.trans htorn)
      exact hp (hfits p (by simp))
    · rw [hi]
      cases before with
      | nil =>
        cases hw
        exact Or.inr (Or.inl ⟨rfl, not_torn_cons htext hp, hself⟩)
      | cons b bs =>
        have hne : b :: bs ≠ [] := List.cons_ne_nil b bs
        exact Or.inr (Or.inr ⟨rfl, ⟨hone, b :: bs, p, after, hne, htext, hbefore, hp⟩,
          b :: bs, p, after, t, hne, htext, hbefore, hp, hw, rfl⟩)

/-- The request is either accepted, and its points have been inserted in the order of their lines,
or it leaves the service as it was. -/
def AllOrNothing (s : Service) (store : MemoryStore) (r : HttpRequest) : Prop :=
  ((s.answer r).1.status = 204 → ∃ points t,
    (Point.linesOf r.body).map Point.ofLine? = points.map some ∧
      store.writeAll r.writer points = .ok t ∧
        (s.answer r).2.2 = { s with backend := .memory t }) ∧
  ((s.answer r).1.status ≠ 204 → (s.answer r).2.2 = s)

/-- A point, and one that is before all slots. -/
def tornRequest : HttpRequest := ⟨"POST", "/metrics", [], "a.b 1 0\nc.d 1 -1e30\n", 0⟩

/-- The second of the two points has no slot. -/
theorem torn_tornRequest : tornRequest.Torn 60 := by
  have hlines : (Point.linesOf tornRequest.body).map Point.ofLine? =
      [⟨"a.b", 1.0, 0⟩, ⟨"c.d", 1.0, Timestamp.least⟩].map some := by
    decide +kernel
  refine ⟨by decide, [⟨"a.b", 1.0, 0⟩], ⟨"c.d", 1.0, Timestamp.least⟩, [], by simp,
    Point.ofText_eq_ok_iff.2 hlines, ?_, ?_⟩
  · rw [List.forall_mem_singleton]
    exact Option.isSome_iff_exists.2 ⟨0, rfl⟩
  · intro h
    cases h

/-- A request writes all of its points or none, whatever the store holds, exactly if it is not torn.
A torn request is rejected, but its points up to the first one without a slot have been written. -/
theorem ingest_all_or_nothing_iff {step : Int} (hstep : 0 < step)
    (hr : Route.ofPath? r.path = some .metrics) (hm : r.method = "POST") :
    ((∀ (s : Service) (store : MemoryStore), s.backend = .memory store → store.step = step →
        s.AllOrNothing store r) ↔ ¬r.Torn step) ∧
      ∀ (s : Service) (store : MemoryStore), s.backend = .memory store → store.step = step →
        r.Torn step → (s.answer r).1.status = 400 ∧ ∃ before p after t, before ≠ [] ∧
          Point.ofText r.body = .ok (before ++ p :: after) ∧ ¬p.Fits step ∧
            store.writeAll r.writer before = .ok t ∧
              (s.answer r).2.2 = { s with backend := .memory t } := by
  refine ⟨⟨fun h htorn => ?_, fun htorn s store hs hstore => ?_⟩,
    fun s store hs hstore htorn => ?_⟩
  · -- The points that a torn request leaves in an empty store.
    have hs : (launch .standard (.memory ⟨step, ∅, hstep⟩)).backend =
        .memory ⟨step, ∅, hstep⟩ := rfl
    have hall := h _ _ hs rfl
    rcases answer_cases hs hr hm with ⟨-, hwhole, -⟩ | ⟨-, hwhole, -⟩ |
      ⟨hstatus, -, before, p, after, t, hne, -, hfits, -, hw, hafter⟩
    · exact hwhole htorn
    · exact hwhole htorn
    · have hkept := hall.2 (by rw [hstatus]; decide)
      have ht := congrArg backend hkept
      rw [hafter, hs] at ht
      obtain ⟨b, hb⟩ := List.exists_mem_of_ne_nil before hne
      obtain ⟨slot, hslot⟩ := Option.isSome_iff_exists.1 (hfits b hb)
      refine MemoryStore.ne_of_writeAll hw hb hslot ?_ (Backend.memory.inj ht)
      simp [MemoryStore.slotsAt]
  · rcases answer_cases hs hr hm with
      ⟨hstatus, -, points, t, htext, hw, hafter⟩ | ⟨hstatus, -, hafter⟩ | ⟨-, h, -⟩
    · exact ⟨fun _ => ⟨points, t, Point.ofText_eq_ok_iff.1 htext, hw, hafter⟩,
        fun h => absurd hstatus h⟩
    · refine ⟨fun h => ?_, fun _ => hafter⟩
      rw [hstatus] at h
      cases h
    · exact absurd (hstore ▸ h) htorn
  · rcases answer_cases hs hr hm with ⟨-, hwhole, -⟩ | ⟨-, hwhole, -⟩ |
      ⟨hstatus, -, before, p, after, t, hne, htext, -, hp, hw, hafter⟩
    · exact absurd (hstore ▸ htorn) hwhole
    · exact absurd (hstore ▸ htorn) hwhole
    · exact ⟨hstatus, before, p, after, t, hne, htext, hstore ▸ hp, hw, hafter⟩

/-- The first point of a request stays written when the second one has no slot. -/
theorem not_all_or_nothing_tornRequest :
    (0 : Int) < 60 ∧ Route.ofPath? tornRequest.path = some .metrics ∧
      tornRequest.method = "POST" ∧
      (¬∀ (s : Service) (store : MemoryStore), s.backend = .memory store → store.step = 60 →
        s.AllOrNothing store tornRequest) ∧
      ((inMemory .standard).answer tornRequest).1.status = 400 := by
  have hr : Route.ofPath? tornRequest.path = some .metrics := by
    decide
  obtain ⟨hiff, htorn⟩ := @ingest_all_or_nothing_iff tornRequest 60 (by decide) hr rfl
  refine ⟨by decide, hr, rfl, fun hall => hiff.1 hall torn_tornRequest, ?_⟩
  exact (htorn (inMemory .standard) (.empty 60) rfl rfl torn_tornRequest).1

/-- So it is not the case that a rejected request changes no answer of the store. -/
theorem exists_change_of_rejected :
    ¬∀ (s : Service) (store : MemoryStore) (r : HttpRequest), s.backend = .memory store →
      Route.ofPath? r.path = some .metrics → r.method = "POST" → (s.answer r).1.status ≠ 204 →
      ∀ (tenant pattern : String) (start stop : Int),
        ((s.answer r).2.2.backend.source tenant start stop pattern).series =
          (s.backend.source tenant start stop pattern).series := by
  intro h
  have hsame := h (inMemory .standard) (.empty 60) tornRequest rfl (by decide) rfl
    (by decide +kernel) "NONE" "a.b" 0 60
  have hcount := congrArg (fun answer => answer.toOption.map List.length) hsame
  revert hcount
  decide +kernel

end Service

end SeriesRender

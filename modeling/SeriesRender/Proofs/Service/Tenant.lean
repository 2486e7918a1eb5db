import SeriesRender.Proofs.Request.Parameters
import SeriesRender.Proofs.Service.Ingest

/-!
# Writing and reading under one name

Points are written for the tenant that `HttpRequest.writer` finds, and rendered for the one that
`Parameters.read` finds. Both take the parameter first, then the header, then a fixed name, but an
empty header counts for one of them only. `same_tenant_iff` says that the two find the same tenant
unless the header is empty and decides (`HttpRequest.Misfiled`). Such points are written for the
empty tenant, for which nothing can be rendered (`resolveTenant_ne_empty`).
-/

namespace SeriesRender

/-- The header names the empty tenant, and no parameter overrides it. -/
def HttpRequest.Misfiled (r : HttpRequest) : Prop :=
  r.tenant? = some "" ∧ ∀ name ∈ r.namedTenants, name = ""

/-! ## Choosing a tenant -/

/-- The two choices agree unless the header is empty and decides. -/
theorem writingTenant_eq_iff {parameter header : Option String} :
    writingTenant parameter header = resolveTenant parameter header ↔
      ¬(header = some "" ∧ parameter.bind nonEmpty? = none) := by
  constructor
  · rintro h ⟨rfl, hp⟩
    refine resolveTenant_ne_empty parameter (some "") (h.symm.trans ?_)
    rw [writingTenant, hp]
    rfl
  · intro h
    unfold writingTenant resolveTenant
    cases hp : parameter.bind nonEmpty? with
    | some name => rfl
    | none =>
      cases header with
      | none => rfl
      | some name =>
        have hname : name ≠ "" := by
          rintro rfl
          exact h ⟨rfl, hp⟩
        rw [Option.bind_some, nonEmpty?_of_ne hname]

/-! ## Writing and reading -/

namespace Service

variable {w r : HttpRequest} {p : Parameters}

/-- A write is misfiled if its header is empty and its query names no tenant. -/
theorem misfiled_iff (h : w.namedTenants.length ≤ 1) : w.Misfiled ↔
    w.tenant? = some "" ∧ w.namedTenants.head?.bind nonEmpty? = none := by
  unfold HttpRequest.Misfiled
  rcases hn : w.namedTenants with _ | ⟨name, _ | ⟨other, rest⟩⟩
  · simp
  · simp [nonEmpty?_eq_none_iff]
  · simp [hn] at h

/-- A request that reads resolves its tenant from the same two places. -/
theorem tenant_eq_resolveTenant (hheader : w.tenant? = r.tenant?)
    (hnamed : w.namedTenants = allValues (parameterPairs r.query r.body) "tenant")
    (hone : w.namedTenants.length ≤ 1)
    (hp : Parameters.read r.query r.body r.tenant? r.time = .ok p) :
    p.tenant = resolveTenant w.namedTenants.head? w.tenant? := by
  have hlast : w.namedTenants.getLast? = w.namedTenants.head? := by
    rcases hn : w.namedTenants with _ | ⟨name, _ | ⟨other, rest⟩⟩
    · rfl
    · rfl
    · simp [hn] at hone
  rw [tenant_of_read hp, lastValue?_eq, ← hnamed, hheader, hlast]

/-- A point, posted under a header for the tenant. -/
def filing (tenant : String) : HttpRequest :=
  ⟨"POST", "/metrics", [("x-tenant-id", tenant)], "a 5 0\n", 0⟩

/-- A request for the path of that point, under the same header. -/
def lookup (tenant : String) : HttpRequest :=
  ⟨"GET", "/render?target=a&from=0&until=60&format=raw", [("x-tenant-id", tenant)], "", 0⟩

theorem namedTenants_filing (tenant : String) : (filing tenant).namedTenants = [] := by
  change (filing "").namedTenants = []
  decide

/-- The two name no tenant but the one of their header. -/
theorem namedTenants_filing_eq (tenant : String) : (filing tenant).namedTenants =
    allValues (parameterPairs (lookup tenant).query (lookup tenant).body) "tenant" := by
  rw [namedTenants_filing]
  change [] = allValues (parameterPairs (lookup "").query (lookup "").body) "tenant"
  decide

theorem tenant?_filing {tenant : String} (h : (tenant.toList.all fun c => c.toNat < 128) = true) :
    (filing tenant).tenant? = some tenant := by
  have hname : "x-tenant-id".toLower = HttpRequest.tenantHeader := toLower_eq_iff.2 (by decide)
  simp only [HttpRequest.tenant?, filing, hname, decide_true, List.find?_cons_of_pos,
    Option.map_some, Option.filter_some, h, if_true]

theorem read_lookup :
    Parameters.read (lookup "acme").query "" (lookup "acme").tenant? 0 =
        .ok ⟨"acme", ["a"], 0, 60, .raw⟩ ∧
      Parameters.read (lookup "").query "" (lookup "").tenant? 0 =
        .ok ⟨"NONE", ["a"], 0, 60, .raw⟩ := by
  rw [← toOption_eq_some_iff, ← toOption_eq_some_iff]
  decide +kernel

/-- A request that writes points and one that renders, with the same header and the same parameter
for the tenant, mean the same tenant exactly if the first one is not misfiled. In this case the
second one finds the points where they are to be; otherwise it finds the store as it was. -/
theorem same_tenant_iff (hheader : w.tenant? = r.tenant?)
    (hnamed : w.namedTenants = allValues (parameterPairs r.query r.body) "tenant")
    (hone : w.namedTenants.length ≤ 1)
    (hp : Parameters.read r.query r.body r.tenant? r.time = .ok p) :
    (w.writer = p.tenant ↔ ¬w.Misfiled) ∧
      ∀ (s : Service) (store : MemoryStore), s.backend = .memory store →
        Route.ofPath? w.path = some .metrics → w.method = "POST" →
        (s.answer w).1.status = 204 → ∃ points t,
          (Point.linesOf w.body).map Point.ofLine? = points.map some ∧
            (s.answer w).2.2 = { s with backend := .memory t } ∧
            (¬w.Misfiled → ∀ path slot, (t.slotsAt p.tenant path)[slot]? =
              (Point.lastAt store.step path slot points).or (store.slotsAt p.tenant path)[slot]?) ∧
            (w.Misfiled → ∀ path, t.slotsAt p.tenant path = store.slotsAt p.tenant path) := by
  have hsame : w.writer = p.tenant ↔ ¬w.Misfiled := by
    rw [tenant_eq_resolveTenant hheader hnamed hone hp, misfiled_iff hone, HttpRequest.writer]
    exact writingTenant_eq_iff
  refine ⟨hsame, fun s store hs hr hm hstatus => ?_⟩
  rcases answer_cases hs hr hm with
    ⟨-, -, points, t, htext, hw, hafter⟩ | ⟨hfailed, -⟩ | ⟨hfailed, -⟩
  · refine ⟨points, t, Point.ofText_eq_ok_iff.1 htext, hafter, fun h => ?_, fun h => ?_⟩
    · rw [hsame.2 h] at hw
      exact MemoryStore.getElem?_writeAll hw
    · exact MemoryStore.slotsAt_writeAll_of_ne hw fun heq => hsame.1 heq h
  · rw [hfailed] at hstatus
    cases hstatus
  · rw [hfailed] at hstatus
    cases hstatus

/-- A header with a name means the same tenant to both; with an empty one the point is lost. -/
theorem same_tenant_filing :
    (filing "acme").writer = "acme" ∧ (filing "").writer ≠ "NONE" ∧
      ∃ t, ((inMemory .standard).answer (filing "")).2.2.backend = .memory t ∧
        ∀ path, t.slotsAt "NONE" path = ∅ := by
  obtain ⟨hacme, -⟩ := same_tenant_iff (w := filing "acme") (r := lookup "acme") rfl
    (namedTenants_filing_eq _) (by simp [namedTenants_filing])
    read_lookup.1
  obtain ⟨hempty, hstore⟩ := same_tenant_iff (w := filing "") (r := lookup "") rfl
    (namedTenants_filing_eq _) (by simp [namedTenants_filing])
    read_lookup.2
  have hmisfiled : (filing "").Misfiled := ⟨tenant?_filing rfl, by simp [namedTenants_filing]⟩
  refine ⟨hacme.2 ?_, fun h => hempty.1 h hmisfiled, ?_⟩
  · rintro ⟨h, -⟩
    rw [tenant?_filing rfl] at h
    exact absurd h (by decide)
  · obtain ⟨points, t, -, hafter, -, hslots⟩ := hstore (inMemory .standard) (.empty 60) rfl
      (by decide) rfl (by decide +kernel)
    refine ⟨t, by rw [hafter], fun path => (hslots hmisfiled path).trans ?_⟩
    simp [MemoryStore.slotsAt, MemoryStore.empty]

/-- So it is not the case that the two requests always mean the same tenant. -/
theorem exists_other_tenant :
    ¬∀ (w r : HttpRequest) (p : Parameters), w.headers = r.headers →
      w.namedTenants = allValues (parameterPairs r.query r.body) "tenant" →
      w.namedTenants.length ≤ 1 →
      Parameters.read r.query r.body r.tenant? r.time = .ok p → w.writer = p.tenant := by
  intro h
  have hsame := h (filing "") (lookup "") _ rfl
    (namedTenants_filing_eq _) (by simp [namedTenants_filing])
    read_lookup.2
  rw [HttpRequest.writer, namedTenants_filing, tenant?_filing rfl] at hsame
  exact absurd hsame (by decide)

end Service

end SeriesRender

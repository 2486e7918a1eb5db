/-!
# Results and texts

When a program that may fail yields a result : its first step has to, and then what follows. When
it fails : its first step does, or what follows; of many steps the first one that fails
(`mapM_eq_error_iff`). Where a run of characters of one kind ends in a text (`span_append`), and
when a text is another one in lower case : character by character.
-/

namespace SeriesRender

/-! ## Results -/

variable {ε ε' α β : Type}

/-- An option taken from a result has a value just if the result has it. -/
theorem toOption_eq_some_iff {x : Except ε α} {a : α} : x.toOption = some a ↔ x = .ok a := by
  cases x with
  | error e => exact iff_of_false (fun h => by cases h) fun h => by cases h
  | ok b =>
    constructor
    · intro h
      exact congrArg Except.ok (Option.some.inj h)
    · intro h
      exact congrArg some (Except.ok.inj h)

/-- A result that is mapped succeeds as the result does. -/
theorem map_eq_ok_iff {f : α → β} {x : Except ε α} {b : β} :
    x.map f = .ok b ↔ ∃ a, x = .ok a ∧ f a = b := by
  cases x with
  | error e =>
    refine iff_of_false (fun h => by cases h) ?_
    rintro ⟨a, h, -⟩
    cases h
  | ok a =>
    constructor
    · intro h
      exact ⟨a, rfl, Except.ok.inj h⟩
    · rintro ⟨_, h, rfl⟩
      cases h
      rfl

/-- Mapping errors leaves what succeeds. -/
theorem mapError_eq_ok_iff {f : ε → ε'} {x : Except ε α} {a : α} :
    x.mapError f = .ok a ↔ x = .ok a := by
  cases x with
  | error e => exact iff_of_false (fun h => by cases h) fun h => by cases h
  | ok b =>
    constructor
    · intro h
      exact congrArg Except.ok (Except.ok.inj h)
    · intro h
      cases h
      rfl

/-- Two steps in turn succeed if both do. -/
theorem bind_eq_ok_iff {f : α → Except ε β} {x : Except ε α} {b : β} :
    (x >>= f) = .ok b ↔ ∃ a, x = .ok a ∧ f a = .ok b := by
  cases x with
  | error e =>
    refine iff_of_false (fun h => by cases h) ?_
    rintro ⟨a, h, -⟩
    cases h
  | ok a =>
    constructor
    · intro h
      exact ⟨a, rfl, h⟩
    · rintro ⟨_, h, hf⟩
      cases h
      exact hf

/-- What is made of a result can be made if there is a result. -/
theorem exists_bind_pure_eq_ok_iff {f : α → β} {x : Except ε α} :
    (∃ b, (x >>= fun a => pure (f a)) = .ok b) ↔ ∃ a, x = .ok a := by
  simp only [bind_eq_ok_iff]
  constructor
  · rintro ⟨b, a, ha, -⟩
    exact ⟨a, ha⟩
  · rintro ⟨a, ha⟩
    exact ⟨f a, a, ha, rfl⟩

theorem map_eq_error_iff {f : α → β} {x : Except ε α} {e : ε} :
    x.map f = .error e ↔ x = .error e := by
  cases x with
  | error d =>
    constructor
    · intro h
      exact congrArg Except.error (Except.error.inj h)
    · intro h
      cases h
      rfl
  | ok a => exact iff_of_false (fun h => by cases h) fun h => by cases h

theorem mapError_eq_error_iff {f : ε → ε'} {x : Except ε α} {e : ε'} :
    x.mapError f = .error e ↔ ∃ d, x = .error d ∧ f d = e := by
  cases x with
  | error d =>
    constructor
    · intro h
      exact ⟨d, rfl, Except.error.inj h⟩
    · rintro ⟨_, h, rfl⟩
      cases h
      rfl
  | ok a =>
    refine iff_of_false (fun h => by cases h) ?_
    rintro ⟨d, h, -⟩
    cases h

/-- Results are the same up to what is made of failures. -/
theorem mapError_eq_mapError_iff {f : ε → ε'} {x y : Except ε α} :
    x.mapError f = y.mapError f ↔
      (∃ a, x = .ok a ∧ y = .ok a) ∨ ∃ d e, x = .error d ∧ y = .error e ∧ f d = f e := by
  constructor
  · intro h
    cases x with
    | ok a => exact Or.inl ⟨a, rfl, mapError_eq_ok_iff.1 h.symm⟩
    | error d =>
      obtain ⟨e, hy, he⟩ := mapError_eq_error_iff.1 h.symm
      exact Or.inr ⟨d, e, rfl, hy, he.symm⟩
  · rintro (⟨a, rfl, rfl⟩ | ⟨d, e, rfl, rfl, h⟩)
    · rfl
    · exact congrArg Except.error h

/-- Two steps in turn fail with the error of the first one that fails. -/
theorem bind_eq_error_iff {f : α → Except ε β} {x : Except ε α} {e : ε} :
    (x >>= f) = .error e ↔ x = .error e ∨ ∃ a, x = .ok a ∧ f a = .error e := by
  cases x with
  | error d =>
    constructor
    · intro h
      exact Or.inl (congrArg Except.error (Except.error.inj h))
    · rintro (h | ⟨a, h, -⟩)
      · cases h
        rfl
      · cases h
  | ok a =>
    constructor
    · intro h
      exact Or.inr ⟨a, rfl, h⟩
    · rintro (h | ⟨_, h, hf⟩)
      · cases h
      · cases h
        exact hf

/-- A program that is made for one value after the other fails as the first one does that fails. -/
theorem mapM_eq_error_iff {f : α → Except ε β} {xs : List α} {e : ε} :
    xs.mapM f = .error e ↔ ∃ before x after, xs = before ++ x :: after ∧
      (∀ y ∈ before, ∃ b, f y = .ok b) ∧ f x = .error e := by
  induction xs with
  | nil =>
    refine iff_of_false (fun h => by cases h) ?_
    rintro ⟨before, x, after, h, -⟩
    simp at h
  | cons x xs ih =>
    rw [List.mapM_cons, bind_eq_error_iff]
    constructor
    · rintro (hx | ⟨b, hx, h⟩)
      · exact ⟨[], x, xs, rfl, List.forall_mem_nil _, hx⟩
      · obtain h | ⟨bs, -, h⟩ := bind_eq_error_iff.1 h
        · obtain ⟨before, y, after, rfl, hbefore, hy⟩ := ih.1 h
          exact ⟨x :: before, y, after, rfl, List.forall_mem_cons.2 ⟨⟨b, hx⟩, hbefore⟩, hy⟩
        · cases h
    · rintro ⟨before, y, after, h, hbefore, hy⟩
      cases before with
      | nil =>
        obtain ⟨rfl, rfl⟩ := List.cons.inj h
        exact Or.inl hy
      | cons z before =>
        obtain ⟨rfl, rfl⟩ := List.cons.inj h
        obtain ⟨⟨b, hx⟩, hbefore⟩ := List.forall_mem_cons.1 hbefore
        have htail := ih.2 ⟨before, y, after, rfl, hbefore, hy⟩
        exact Or.inr ⟨b, hx, bind_eq_error_iff.2 (Or.inl htail)⟩

/-- A function that succeeds on a list succeeds on each element of it. -/
theorem exists_of_mapM_eq_ok {f : α → Except ε β} {xs : List α} {bs : List β}
    (h : xs.mapM f = .ok bs) : ∀ x ∈ xs, ∃ b ∈ bs, f x = .ok b := by
  induction xs generalizing bs with
  | nil => exact List.forall_mem_nil _
  | cons x xs ih =>
    rw [List.mapM_cons] at h
    obtain ⟨b, hb, h⟩ := bind_eq_ok_iff.1 h
    obtain ⟨bs, hbs, h⟩ := bind_eq_ok_iff.1 h
    obtain rfl := Except.ok.inj h
    refine List.forall_mem_cons.2 ⟨⟨b, List.mem_cons_self .., hb⟩, fun y hy => ?_⟩
    obtain ⟨c, hc, hy⟩ := ih hbs y hy
    exact ⟨c, List.mem_cons_of_mem _ hc, hy⟩

/-- A function that succeeds on each element of a list succeeds on the list. -/
theorem exists_mapM_eq_ok {f : α → Except ε β} {xs : List α} (h : ∀ x ∈ xs, ∃ b, f x = .ok b) :
    ∃ bs, xs.mapM f = .ok bs := by
  cases hxs : xs.mapM f with
  | ok bs => exact ⟨bs, rfl⟩
  | error e =>
    obtain ⟨before, x, after, rfl, -, hx⟩ := mapM_eq_error_iff.1 hxs
    obtain ⟨b, hb⟩ := h x (by simp)
    cases hx.symm.trans hb

/-- A function succeeds on a list just if it does on each element. -/
theorem exists_mapM_eq_ok_iff {f : α → Except ε β} {xs : List α} :
    (∃ bs, xs.mapM f = .ok bs) ↔ ∀ x ∈ xs, ∃ b, f x = .ok b := by
  refine ⟨?_, exists_mapM_eq_ok⟩
  rintro ⟨bs, h⟩ x hx
  obtain ⟨b, -, hb⟩ := exists_of_mapM_eq_ok h x hx
  exact ⟨b, hb⟩

/-- A program that can only fail or yield a given value does so for one value after the other. -/
theorem mapM_eq_ok_iff_map {f : α → Except ε β} {g : α → β} {p : α → Prop} {xs : List α}
    {bs : List β} (h : ∀ x b, f x = .ok b ↔ p x ∧ g x = b) :
    xs.mapM f = .ok bs ↔ (∀ x ∈ xs, p x) ∧ xs.map g = bs := by
  induction xs generalizing bs with
  | nil =>
    rw [and_iff_right (List.forall_mem_nil _)]
    exact ⟨fun h => Except.ok.inj h, fun h => congrArg Except.ok h⟩
  | cons x xs ih =>
    rw [List.mapM_cons, bind_eq_ok_iff, List.forall_mem_cons, List.map_cons]
    constructor
    · rintro ⟨b, hb, hbs⟩
      obtain ⟨cs, hcs, hbs⟩ := bind_eq_ok_iff.1 hbs
      obtain rfl := Except.ok.inj hbs
      obtain ⟨hx, rfl⟩ := (h x b).1 hb
      obtain ⟨hxs, rfl⟩ := ih.1 hcs
      exact ⟨⟨hx, hxs⟩, rfl⟩
    · rintro ⟨⟨hx, hxs⟩, rfl⟩
      exact ⟨g x, (h x _).2 ⟨hx, rfl⟩, bind_eq_ok_iff.2 ⟨_, ih.2 ⟨hxs, rfl⟩, rfl⟩⟩

/-! ## Texts -/

/-- What is to hold of every character is tried out on one after the other. -/
theorem forall_mem_of_all {p : Char → Prop} [DecidablePred p] {cs : List Char}
    (h : cs.all (fun c => p c) = true) : ∀ c ∈ cs, p c :=
  fun c hc => of_decide_eq_true (List.all_eq_true.1 h c hc)

/-- Where a run of such characters ends, the text goes on with another one or ends as well. -/
theorem span_append {p : α → Bool} {xs ys : List α} (hxs : ∀ x ∈ xs, p x = true)
    (hys : ∀ y ∈ ys.head?, p y = false) :
    (xs ++ ys).takeWhile p = xs ∧ (xs ++ ys).dropWhile p = ys := by
  rw [List.takeWhile_append_of_pos hxs, List.dropWhile_append_of_pos hxs]
  cases ys with
  | nil => simp
  | cons y ys =>
    have hy : p y = false := hys y rfl
    simp [hy]

/-- Lower case is taken letter by letter. -/
theorem toLower_eq_iff {w v : String} : w.toLower = v ↔ w.toList.map Char.toLower = v.toList := by
  have h : w.toLower.toList = w.toList.map Char.toLower := String.toList_map
  rw [← h, String.toList_inj]

/-- The letters of ASCII change, by the distance between its two alphabets. -/
theorem toNat_toLower (c : Char) :
    c.toLower.toNat = if 65 ≤ c.toNat ∧ c.toNat ≤ 90 then c.toNat + 32 else c.toNat := by
  delta Char.toLower
  have hbounds : c.val ≥ 'A'.val ∧ c.val ≤ 'Z'.val ↔ 65 ≤ c.toNat ∧ c.toNat ≤ 90 := by
    rw [ge_iff_le, UInt32.le_iff_toNat_le, UInt32.le_iff_toNat_le]
    rfl
  by_cases h : 65 ≤ c.toNat ∧ c.toNat ≤ 90
  · rw [dif_pos (hbounds.2 h), if_pos h]
    change (c.val + 32).toNat = c.val.toNat + 32
    have hle : c.val.toNat ≤ 90 := h.2
    rw [UInt32.toNat_add]
    exact Nat.mod_eq_of_lt (Nat.lt_of_le_of_lt (Nat.add_le_add_right hle 32) (by decide))
  · rw [dif_neg (mt hbounds.1 h), if_neg h]

end SeriesRender

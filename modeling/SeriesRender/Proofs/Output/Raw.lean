import Mathlib.Data.List.Forall2
import SeriesRender.Output.Format
import SeriesRender.Proofs.NumberText
import SeriesRender.Text.Blank

/-!
# Reading raw lines back

A raw line is read from its end : the samples have no bar in them, and the bounds before it no
comma, so the last bar and the last three commas before it are the marks, whatever the name is
(`rawText_eq_iff`). No line has a line feed if no name has one. So raw bodies are the same exactly
if they show the same of the same number of series (`body_raw_eq_iff`).
-/

namespace SeriesRender

/-! ## Texts cut at a mark -/

section Marks

variable {mark : Char} {xs ys us vs : List Char}

/-- Texts are told apart by what stands before the first mark. -/
theorem eq_of_first_mark (hxs : mark ∉ xs) (hys : mark ∉ ys)
    (h : xs ++ mark :: us = ys ++ mark :: vs) : xs = ys ∧ us = vs := by
  induction xs generalizing ys with
  | nil =>
    cases ys with
    | nil => exact ⟨rfl, (List.cons.inj h).2⟩
    | cons y ys => exact absurd ((List.cons.inj h).1 ▸ List.mem_cons_self) hys
  | cons x xs ih =>
    cases ys with
    | nil => exact absurd ((List.cons.inj h).1 ▸ List.mem_cons_self) hxs
    | cons y ys =>
      obtain ⟨rfl, hrest⟩ := List.cons.inj h
      obtain ⟨rfl, rfl⟩ := ih (List.not_mem_of_not_mem_cons hxs) (List.not_mem_of_not_mem_cons hys)
        hrest
      exact ⟨rfl, rfl⟩

theorem eq_of_last_mark (hus : mark ∉ us) (hvs : mark ∉ vs)
    (h : xs ++ mark :: us = ys ++ mark :: vs) : xs = ys ∧ us = vs := by
  have hreverse : us.reverse ++ mark :: xs.reverse = vs.reverse ++ mark :: ys.reverse := by
    simpa using congrArg List.reverse h
  obtain ⟨husvs, hxsys⟩ := eq_of_first_mark (mt List.mem_reverse.1 hus) (mt List.mem_reverse.1 hvs)
    hreverse
  exact ⟨List.reverse_inj.1 hxsys, List.reverse_inj.1 husvs⟩

end Marks

namespace Text

theorem splitOn_ne_nil (sep : Char) (cs : List Char) : splitOn sep cs ≠ [] := by
  fun_cases splitOn sep cs <;> exact List.cons_ne_nil _ _

theorem splitOn_append_cons {sep : Char} {cs : List Char} (h : sep ∉ cs) (ds : List Char) :
    splitOn sep (cs ++ sep :: ds) = cs :: splitOn sep ds := by
  induction cs with
  | nil => exact if_pos rfl
  | cons c cs ih =>
    obtain ⟨hc, hcs⟩ := not_or.1 (mt List.mem_cons.2 h)
    rw [List.cons_append, splitOn, if_neg (Ne.symm hc), ih hcs]

/-- Only a carriage return at the end of a line is dropped. -/
theorem dropReturn_of_getLast? {line : List Char} (h : line.getLast? ≠ some '\r') :
    dropReturn line = line := by
  rw [List.getLast?_eq_head?_reverse] at h
  unfold dropReturn
  split
  · next hline => exact absurd (hline ▸ rfl) h
  · rfl

theorem lines_append_cons {line : List Char} (hline : '\n' ∉ line)
    (hlast : line.getLast? ≠ some '\r') (cs : List Char) :
    lines (line ++ '\n' :: cs) = line :: lines cs := by
  rw [lines, splitOn_append_cons hline, lines]
  obtain ⟨piece, pieces, hcs⟩ := List.exists_cons_of_ne_nil (splitOn_ne_nil '\n' cs)
  rw [hcs, linesOfPieces, dropReturn_of_getLast? hlast]
  exact List.cons_ne_nil _ _

/-- Lines that have been joined are found again. -/
theorem lines_flatMap {ls : List (List Char)}
    (h : ∀ l ∈ ls, '\n' ∉ l ∧ l.getLast? ≠ some '\r') :
    lines (ls.flatMap (· ++ ['\n'])) = ls := by
  induction ls with
  | nil => rfl
  | cons l ls ih =>
    obtain ⟨⟨hnewline, hlast⟩, hls⟩ := List.forall_mem_cons.1 h
    rw [List.flatMap_cons, List.append_assoc, List.singleton_append,
      lines_append_cons hnewline hlast, ih hls]

end Text

/-! ## Numbers -/

theorem intChars_inj {m n : Int} (h : intChars m = intChars n) : m = n := by
  have hread := congrArg Decimal.readInt? h
  rw [intChars, intChars, Decimal.readInt?_signed, Decimal.readInt?_signed] at hread
  exact Option.some.inj hread

theorem not_mem_intChars {c : Char} (hc : c ∉ numberChars) (n : Int) : c ∉ intChars n :=
  fun hmem => hc (Decimal.signed_subset (Decimal.digitChars_subset _) _ hmem)

/-! ## Samples -/

variable {style : NumberStyle}

/-- The samples of a raw line. -/
def rawSamples (style : NumberStyle) (samples : List (Option Float)) : List Char :=
  [','].intercalate (samples.map (rawSample style))

theorem rawSample_subset (style : NumberStyle) (x : Option Float) :
    rawSample style x ⊆ 'o' :: 'e' :: numberChars := by
  cases x with
  | none => exact (by decide : ['N', 'o', 'n', 'e'] ⊆ 'o' :: 'e' :: numberChars)
  | some x =>
    exact fun c hc => List.mem_cons_of_mem _ (List.mem_cons_of_mem _ (style.chars_subset x hc))

theorem rawSample_ne_nil (style : NumberStyle) (x : Option Float) : rawSample style x ≠ [] := by
  cases x with
  | none => exact List.cons_ne_nil _ _
  | some x => exact style.chars_ne_nil x

/-- No number is written like a missing sample. -/
theorem rawSample_eq_iff {x y : Option Float} :
    rawSample style x = rawSample style y ↔ x.map style.format = y.map style.format := by
  have hnone : ∀ x, style.chars x ≠ ['N', 'o', 'n', 'e'] := by
    intro x h
    have ho : 'o' ∈ style.chars x := h ▸ (by decide : 'o' ∈ ['N', 'o', 'n', 'e'])
    exact absurd (style.chars_subset x ho) (by decide)
  cases x with
  | none =>
    cases y with
    | none => exact iff_of_true rfl rfl
    | some y => exact iff_of_false (hnone y).symm fun h => by cases h
  | some x =>
    cases y with
    | none => exact iff_of_false (hnone x) fun h => by cases h
    | some y =>
      change style.chars x = style.chars y ↔ some (style.format x) = some (style.format y)
      rw [Option.some_inj, NumberStyle.format, NumberStyle.format, String.ofList_inj]

theorem map_eq_map_iff_forall₂ {α β : Type} {f : α → β} {as bs : List α} :
    as.map f = bs.map f ↔ List.Forall₂ (fun a b => f a = f b) as bs := by
  rw [← List.forall₂_eq_eq_eq, List.forall₂_map_left_iff, List.forall₂_map_right_iff]

/-- Samples have the same texts just if they are formatted alike, the missing ones in the same
places. -/
theorem map_rawSample_eq_iff {xs ys : List (Option Float)} :
    xs.map (rawSample style) = ys.map (rawSample style) ↔
      xs.map (Option.map style.format) = ys.map (Option.map style.format) := by
  simp only [map_eq_map_iff_forall₂, rawSample_eq_iff]

theorem rawSamples_subset (style : NumberStyle) (xs : List (Option Float)) :
    rawSamples style xs ⊆ ',' :: 'o' :: 'e' :: numberChars := by
  induction xs with
  | nil => exact List.nil_subset _
  | cons x xs ih =>
    have hx : rawSample style x ⊆ ',' :: 'o' :: 'e' :: numberChars :=
      List.Subset.trans (rawSample_subset style x) (List.subset_cons_self _ _)
    cases xs with
    | nil =>
      rw [rawSamples, List.map_singleton, List.intercalate_singleton]
      exact hx
    | cons y ys =>
      rw [rawSamples, List.map_cons, List.map_cons, List.intercalate_cons_cons]
      exact List.append_subset.2 ⟨List.append_subset.2 ⟨hx, by decide⟩, ih⟩

/-- There is nothing but numbers, words for none and commas in a row of samples. -/
theorem not_mem_rawSamples {c : Char} (hc : c ∉ ',' :: 'o' :: 'e' :: numberChars)
    (xs : List (Option Float)) : c ∉ rawSamples style xs :=
  fun hmem => hc (rawSamples_subset style xs hmem)

/-- A row of samples is split into its samples again. -/
theorem splitOn_rawSamples {xs : List (Option Float)} (h : xs ≠ []) :
    (rawSamples style xs).splitOn ',' = xs.map (rawSample style) := by
  refine List.splitOn_intercalate ',' (fun text htext hmem => ?_) (mt List.map_eq_nil_iff.1 h)
  obtain ⟨x, -, rfl⟩ := List.mem_map.1 htext
  exact absurd (rawSample_subset style x hmem) (by decide)

theorem rawSamples_cons_ne_nil (x : Option Float) (xs : List (Option Float)) :
    rawSamples style (x :: xs) ≠ [] := by
  intro h
  have hsplit : (rawSamples style (x :: xs)).splitOn ',' = (x :: xs).map (rawSample style) :=
    splitOn_rawSamples (List.cons_ne_nil x xs)
  rw [h, List.splitOn_nil, List.map_cons] at hsplit
  exact rawSample_ne_nil style x (List.cons.inj hsplit).1.symm

theorem rawSamples_eq_iff {xs ys : List (Option Float)} :
    rawSamples style xs = rawSamples style ys ↔
      xs.map (Option.map style.format) = ys.map (Option.map style.format) := by
  rw [← map_rawSample_eq_iff]
  refine ⟨fun h => ?_, fun h => by rw [rawSamples, h, rawSamples]⟩
  cases xs with
  | nil =>
    cases ys with
    | nil => rfl
    | cons y ys => exact absurd h.symm (rawSamples_cons_ne_nil y ys)
  | cons x xs =>
    cases ys with
    | nil => exact absurd h (rawSamples_cons_ne_nil x xs)
    | cons y ys =>
      rw [← splitOn_rawSamples (List.cons_ne_nil x xs), h,
        splitOn_rawSamples (List.cons_ne_nil y ys)]

/-! ## Lines -/

/-- A raw line without its end. -/
def rawText (style : NumberStyle) (s : Series) : List Char :=
  s.name.toList ++ ',' :: intChars s.start ++ ',' :: intChars s.stop ++ ',' :: intChars s.step ++
    '|' :: rawSamples style s.samples

/-- What a raw line shows is the same of both series : as many samples, missing at the same
places, and with the same texts. -/
structure Series.Alike (style : NumberStyle) (s t : Series) : Prop where
  name : s.name = t.name
  start : s.start = t.start
  stop : s.stop = t.stop
  step : s.step = t.step
  samples : s.samples.map (Option.map style.format) = t.samples.map (Option.map style.format)

theorem rawLine_eq (style : NumberStyle) (s : Series) :
    rawLine style s = rawText style s ++ ['\n'] := by
  simp [rawLine, rawText, rawSamples]

/-- A line tells its series apart from all that are not formatted alike. -/
theorem rawText_eq_iff {s t : Series} : rawText style s = rawText style t ↔ s.Alike style t := by
  have hbar : ∀ xs, '|' ∉ rawSamples style xs := not_mem_rawSamples (by decide)
  have hcomma : ∀ n, ',' ∉ intChars n := not_mem_intChars (by decide)
  constructor
  · intro h
    obtain ⟨h, hsamples⟩ := eq_of_last_mark (hbar _) (hbar _) h
    obtain ⟨h, hstep⟩ := eq_of_last_mark (hcomma _) (hcomma _) h
    obtain ⟨h, hstop⟩ := eq_of_last_mark (hcomma _) (hcomma _) h
    obtain ⟨hname, hstart⟩ := eq_of_last_mark (hcomma _) (hcomma _) h
    exact ⟨String.toList_inj.1 hname, intChars_inj hstart, intChars_inj hstop, intChars_inj hstep,
      rawSamples_eq_iff.1 hsamples⟩
  · intro h
    rw [rawText, h.name, h.start, h.stop, h.step, rawSamples_eq_iff.2 h.samples, rawText]

/-- There is no line feed in a line, unless it is in the name. -/
theorem newline_not_mem_rawText {s : Series} (h : '\n' ∉ s.name.toList) :
    '\n' ∉ rawText style s := by
  have hsamples : '\n' ∉ rawSamples style s.samples := not_mem_rawSamples (by decide) _
  have hnumber : ∀ n, '\n' ∉ intChars n := not_mem_intChars (by decide)
  simp [rawText, h, hnumber, hsamples]

theorem getLast?_rawText_ne (s : Series) : (rawText style s).getLast? ≠ some '\r' := by
  rw [rawText, List.getLast?_append_cons]
  intro h
  rcases List.mem_cons.1 (List.mem_of_getLast? h) with hbar | hmem
  · exact absurd hbar (by decide)
  · exact not_mem_rawSamples (by decide) _ hmem

/-! ## Bodies -/

variable {ss ts : List Series}

theorem rawBody_eq (style : NumberStyle) (ss : List Series) :
    rawBody style ss = (ss.map (rawText style)).flatMap (· ++ ['\n']) := by
  rw [List.flatMap_map, rawBody]
  exact congrArg (ss.flatMap ·) (funext (rawLine_eq style))

/-- The lines of a body are those of its series. -/
theorem lines_rawBody (h : ∀ s ∈ ss, '\n' ∉ s.name.toList) :
    Text.lines (rawBody style ss) = ss.map (rawText style) := by
  rw [rawBody_eq]
  refine Text.lines_flatMap fun line hline => ?_
  obtain ⟨s, hs, rfl⟩ := List.mem_map.1 hline
  exact ⟨newline_not_mem_rawText (h s hs), getLast?_rawText_ne s⟩

/-- A body tells its series apart, in their order. -/
theorem rawBody_eq_iff (hss : ∀ s ∈ ss, '\n' ∉ s.name.toList)
    (hts : ∀ t ∈ ts, '\n' ∉ t.name.toList) :
    rawBody style ss = rawBody style ts ↔ List.Forall₂ (Series.Alike style) ss ts := by
  have htexts : ss.map (rawText style) = ts.map (rawText style) ↔
      List.Forall₂ (Series.Alike style) ss ts := by
    simp only [map_eq_map_iff_forall₂, rawText_eq_iff]
  rw [← htexts]
  constructor
  · intro h
    rw [← lines_rawBody hss, h, lines_rawBody hts]
  · intro h
    rw [rawBody_eq, h, rawBody_eq]

/-- There always is a raw body. It has one line for each series, and says of each what a raw line
shows, whatever the names are. Only a line feed in a name could be taken for an end. -/
theorem body_raw_eq_iff (style : NumberStyle) (ss ts : List Series)
    (hss : ∀ s ∈ ss, '\n' ∉ s.name.toList) (hts : ∀ t ∈ ts, '\n' ∉ t.name.toList) :
    ∃ response response', formatSeries .raw style ss = .ok response ∧
      formatSeries .raw style ts = .ok response' ∧
      (response.body = response'.body ↔ List.Forall₂ (Series.Alike style) ss ts) ∧
      Text.lines response.body.toList = ss.map (rawText style) := by
  refine ⟨_, _, rfl, rfl, ?_, ?_⟩
  · rw [String.ofList_inj]
    exact rawBody_eq_iff hss hts
  · rw [String.toList_ofList]
    exact lines_rawBody hss

/-- A name that looks like the rest of a line is told from it. -/
theorem body_raw_ne_of_moved : ∃ response response',
    formatSeries .raw .human [⟨"f(a,0,2,1|None)", 0, 2, 1, [some 1, none]⟩] = .ok response ∧
      formatSeries .raw .human [⟨"f(a,0,2,1|None)", 0, 2, 1, [none, some 1]⟩] = .ok response' ∧
      response.body ≠ response'.body ∧ (Text.lines response.body.toList).length = 1 := by
  have hname : '\n' ∉ "f(a,0,2,1|None)".toList := by decide
  obtain ⟨response, response', hresponse, hresponse', hiff, hlines⟩ := body_raw_eq_iff .human
    [⟨"f(a,0,2,1|None)", 0, 2, 1, [some 1, none]⟩] [⟨"f(a,0,2,1|None)", 0, 2, 1, [none, some 1]⟩]
    (List.forall_mem_singleton.2 hname) (List.forall_mem_singleton.2 hname)
  refine ⟨response, response', hresponse, hresponse', fun h => ?_, by rw [hlines]; rfl⟩
  obtain ⟨halike, -⟩ := List.forall₂_cons.1 (hiff.1 h)
  exact absurd halike.samples (by simp)

end SeriesRender

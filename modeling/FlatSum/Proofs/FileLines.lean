import FlatSum.Command.Run

namespace FlatSum

/-! The jobs of a file are the lines of its text, by their places: what stands between two line feeds,
or between one and an end of the text. How lines are ended decides nothing, as long as each ends in
a line feed, and lines that are joined are the lines found. -/

/-- The code points with the `White_Space` property. -/
def whiteSpaceCodes : List Nat :=
  [0x09, 0x0A, 0x0B, 0x0C, 0x0D, 0x20, 0x85, 0xA0, 0x1680, 0x2000, 0x2001, 0x2002, 0x2003, 0x2004,
   0x2005, 0x2006, 0x2007, 0x2008, 0x2009, 0x200A, 0x2028, 0x2029, 0x202F, 0x205F, 0x3000]

def Blank (text : List Char) : Prop := ∀ c ∈ text, c.toNat ∈ whiteSpaceCodes

/-- A line has no line feed in it and reaches as far as it can. Nothing behind the last line feed is
no line. -/
structure LineAt (text : List Char) (span : Span) : Prop where
  ordered : span.Ordered
  begins : ∀ place, span.start = place + 1 → text[place]? = some '\n'
  unbroken : ∀ place, span.holds place = true → text[place]? ≠ some '\n'
  ends : text[span.stop]? = some '\n' ∨ span.stop = text.length ∧ span.start < span.stop

/-- The number of a line that begins at the place. -/
def lineNumber (text : List Char) (start : Nat) : Nat := 1 + (text.take start).count '\n'

/-- The line without the carriage return that may stand right before its line feed. -/
def lineSource (text : List Char) (span : Span) : List Char :=
  if text[span.stop]? = some '\n' ∧ (span.slice text).getLast? = some '\r' then
    (span.slice text).dropLast
  else span.slice text

/-- The text with a carriage return put before each line feed. -/
def withReturns (text : List Char) : List Char :=
  text.flatMap fun c => if c = '\n' then ['\r', '\n'] else [c]

section Blanks

theorem isBlank_iff {c : Char} : isBlank c = true ↔ c.toNat ∈ whiteSpaceCodes := by
  have space : c = ' ' ↔ c.toNat = 32 := by
    rw [← Char.toNat_inj]
    rfl
  unfold isBlank
  split
  · simp only [Bool.or_eq_true, Bool.and_eq_true, decide_eq_true_eq, space, whiteSpaceCodes,
      List.mem_cons, List.not_mem_nil, or_false]
    omega
  · simp only [inRanges_iff, blankRanges, whiteSpaceCodes, List.mem_cons, List.not_mem_nil, or_false,
      exists_eq_or_imp, exists_eq_left]
    omega

theorem isBlankText_iff {text : List Char} : isBlankText text = true ↔ Blank text := by
  simp [isBlankText, Blank, isBlank_iff]

theorem isBlankText_eq_false_iff {text : List Char} :
    isBlankText text = false ↔ ¬ Blank text := by
  rw [← isBlankText_iff, Bool.not_eq_true]

end Blanks

section Cutting

variable {line rest text : List Char}

theorem linesOf_cons_feed (rest : List Char) : linesOf ('\n' :: rest) = ['\n'] :: linesOf rest := by
  simp only [linesOf, splitAfter, List.foldr_cons]
  split
  · rename_i ended
    rw [ended]
  · rename_i line more cut
    rw [cut, if_pos (beq_self_eq_true _)]

theorem linesOf_cons {c : Char} {more : List (List Char)} (other : '\n' ≠ c)
    (cut : linesOf rest = line :: more) : linesOf (c :: rest) = (c :: line) :: more := by
  simp only [linesOf, splitAfter, List.foldr_cons] at cut ⊢
  rw [cut]
  simp [other.symm]

theorem linesOf_fed (unbroken : '\n' ∉ line) (rest : List Char) :
    linesOf (line ++ '\n' :: rest) = (line ++ ['\n']) :: linesOf rest := by
  induction line with
  | nil => exact linesOf_cons_feed rest
  | cons c line ih =>
      obtain ⟨other, unbroken⟩ := not_or.mp (mt List.mem_cons.mpr unbroken)
      exact linesOf_cons other (ih unbroken)

theorem linesOf_unbroken (nonempty : line ≠ []) (unbroken : '\n' ∉ line) : linesOf line = [line] := by
  induction line with
  | nil => contradiction
  | cons c line ih =>
      obtain ⟨other, unbroken⟩ := not_or.mp (mt List.mem_cons.mpr unbroken)
      by_cases single : line = []
      · subst single
        rfl
      · exact linesOf_cons other (ih single unbroken)

/-- A text has no characters, or is a line to its end, or begins with a line and its line feed. -/
@[elab_as_elim]
theorem line_shapes {motive : List Char → Prop} (empty : motive [])
    (last : ∀ line, line ≠ [] → '\n' ∉ line → motive line)
    (fed : ∀ line rest, '\n' ∉ line → motive rest → motive (line ++ '\n' :: rest))
    (text : List Char) : motive text := by
  induction size : text.length using Nat.strongRecOn generalizing text with
  | ind size ih =>
      subst size
      by_cases broken : '\n' ∈ text
      · obtain ⟨line, rest, rfl, unbroken⟩ := List.eq_append_cons_of_mem broken
        have shorter : rest.length < (line ++ '\n' :: rest).length := by
          rw [List.length_append, List.length_cons]
          omega
        exact fed line rest unbroken (ih rest.length shorter rest rfl)
      · by_cases nothing : text = []
        · subst nothing
          exact empty
        · exact last text nothing broken

theorem withoutLineEnd_fed (line : List Char) :
    withoutLineEnd (line ++ ['\n']) =
      if line.getLast? = some '\r' then line.dropLast else line := by
  rcases List.eq_nil_or_concat line with rfl | ⟨front, c, rfl⟩
  · rfl
  · by_cases carriage : c = '\r'
    · subst carriage
      simp [withoutLineEnd]
    · simp [withoutLineEnd, carriage]

theorem withoutLineEnd_unbroken (unbroken : '\n' ∉ line) : withoutLineEnd line = line := by
  unfold withoutLineEnd
  have unbroken : '\n' ∉ line.reverse := by rwa [List.mem_reverse]
  split <;> simp_all

theorem lineFeed_not_mem_withoutLineEnd (unbroken : '\n' ∉ line) :
    '\n' ∉ withoutLineEnd (line ++ ['\n']) := by
  rw [withoutLineEnd_fed]
  split
  · exact fun member => unbroken (List.dropLast_subset line member)
  · exact unbroken

end Cutting

section Places

variable {text rest line : List Char} {span other : Span} {start : Nat}

theorem LineAt.stop_le_length (found : LineAt text span) : span.stop ≤ text.length := by
  rcases found.ends with feed | ⟨ended, _⟩
  · exact Nat.le_of_lt (List.getElem?_eq_some_iff.mp feed).1
  · exact Nat.le_of_eq ended

theorem LineAt.stop_le_stop (found : LineAt text span) (another : LineAt text other)
    (same : span.start = other.start) : span.stop ≤ other.stop := by
  apply Nat.le_of_not_lt
  intro shorter
  rcases another.ends with feed | ⟨ended, _⟩
  · have inside : span.start ≤ other.stop := same ▸ another.ordered
    exact found.unbroken other.stop (Span.holds_iff.mpr ⟨inside, shorter⟩) feed
  · rw [ended] at shorter
    exact Nat.not_le.mpr shorter found.stop_le_length

theorem LineAt.eq_of_start (found : LineAt text span) (another : LineAt text other)
    (same : span.start = other.start) : span = other := by
  have stop := Nat.le_antisymm (found.stop_le_stop another same)
    (another.stop_le_stop found same.symm)
  cases span
  cases other
  simp_all

/-- A later line begins behind the line feed of an earlier one. -/
theorem LineAt.stop_lt_start (found : LineAt text span) (another : LineAt text other)
    (later : span.start < other.start) : span.stop < other.start := by
  obtain ⟨place, begun⟩ := Nat.exists_eq_add_one_of_ne_zero (Nat.ne_zero_of_lt later)
  have feed := another.begins place begun
  apply Nat.lt_of_not_le
  intro overlap
  exact found.unbroken place (Span.holds_iff.mpr ⟨by omega, by omega⟩) feed

theorem lineNumber_fed (front line rest : List Char) (unbroken : '\n' ∉ line) :
    lineNumber (front ++ (line ++ '\n' :: rest)) (front.length + line.length + 1) =
      lineNumber (front ++ (line ++ '\n' :: rest)) front.length + 1 := by
  have taken : (front ++ (line ++ '\n' :: rest)).take (front.length + line.length + 1) =
      front ++ (line ++ ['\n']) := by
    rw [Nat.add_assoc, List.take_length_add_append, List.take_length_add_append]
    rfl
  rw [lineNumber, lineNumber, taken, List.take_left, List.count_append, List.count_append,
    List.count_eq_zero.mpr unbroken, List.count_singleton_self]
  omega

theorem LineAt.start_lt_length (found : LineAt text span) : span.start < text.length := by
  have ordered : span.start ≤ span.stop := found.ordered
  rcases found.ends with feed | ⟨ended, wide⟩
  · exact Nat.lt_of_le_of_lt ordered (List.getElem?_eq_some_iff.mp feed).1
  · exact ended ▸ wide

/-- A piece without line feeds is a line if a line may begin before it and end behind it. -/
theorem LineAt.of_piece {front back : List Char} (begins : front = [] ∨ front.getLast? = some '\n')
    (unbroken : '\n' ∉ line) (ends : back.head? = some '\n' ∨ back = [] ∧ line ≠ []) :
    LineAt (front ++ (line ++ back)) ⟨front.length, front.length + line.length⟩ where
  ordered := Nat.le_add_right _ _
  begins := by
    intro place begun
    have last := begins.resolve_left (List.ne_nil_of_length_eq_add_one begun)
    have inside : place < front.length := Nat.lt_of_lt_of_eq (Nat.lt_succ_self place) begun.symm
    rw [List.getElem?_append_left inside, ← last, List.getLast?_eq_getElem?]
    exact congrArg (front[·]?) (Nat.sub_eq_of_eq_add begun).symm
  unbroken := by
    intro place inside feed
    obtain ⟨lower, upper⟩ := Span.holds_iff.mp inside
    rw [List.getElem?_append_right lower,
      List.getElem?_append_left (Nat.sub_lt_left_of_lt_add lower upper)] at feed
    exact unbroken (List.mem_of_getElem? feed)
  ends := by
    rcases ends with feed | ⟨rfl, nonempty⟩
    · left
      rw [List.getElem?_append_right (Nat.le_add_right _ _), Nat.add_sub_cancel_left,
        List.getElem?_append_right (Nat.le_refl _), Nat.sub_self, ← List.head?_eq_getElem?, feed]
    · right
      have positive := List.length_pos_iff.mpr nonempty
      simp only [List.length_append, List.length_nil]
      omega

theorem lineSource_fed (front line rest : List Char) :
    lineSource (front ++ (line ++ '\n' :: rest)) ⟨front.length, front.length + line.length⟩ =
      withoutLineEnd (line ++ ['\n']) := by
  have feed : (front ++ (line ++ '\n' :: rest))[front.length + line.length]? = some '\n' := by
    rw [List.getElem?_append_right (Nat.le_add_right _ _), Nat.add_sub_cancel_left,
      List.getElem?_append_right (Nat.le_refl _), Nat.sub_self]
    rfl
  rw [lineSource, withoutLineEnd_fed, Span.slice_append]
  simp only [feed, true_and]

theorem lineSource_last (front : List Char) (unbroken : '\n' ∉ line) :
    lineSource (front ++ (line ++ [])) ⟨front.length, front.length + line.length⟩ =
      withoutLineEnd line := by
  rw [lineSource, withoutLineEnd_unbroken unbroken, Span.slice_append]
  simp

/-- The lines from the place of one on are that line and those behind its line feed. -/
theorem LineAt.line_or_behind (found : LineAt text span) :
    LineAt text other ∧ span.start ≤ other.start ↔
      other = span ∨ LineAt text other ∧ span.stop + 1 ≤ other.start := by
  constructor
  · rintro ⟨another, later⟩
    rcases Nat.eq_or_lt_of_le later with same | later
    · exact .inl (another.eq_of_start found same.symm)
    · exact .inr ⟨another, found.stop_lt_start another later⟩
  · rintro (rfl | ⟨another, behind⟩)
    · exact ⟨found, Nat.le_refl _⟩
    · have ordered : span.start ≤ span.stop := found.ordered
      exact ⟨another, Nat.le_trans ordered (Nat.le_of_succ_le behind)⟩

/-- The lines from a place on, where a line may begin, are those that are cut off there. -/
theorem exists_lines (front rest : List Char) (begins : front = [] ∨ front.getLast? = some '\n') :
    ∃ spans : List Span,
      (∀ span, span ∈ spans ↔ LineAt (front ++ rest) span ∧ front.length ≤ span.start) ∧
      spans.Pairwise (fun earlier later => earlier.start < later.start) ∧
      ((linesOf rest).map withoutLineEnd).zipIdx (lineNumber (front ++ rest) front.length) =
        spans.map fun span =>
          (lineSource (front ++ rest) span, lineNumber (front ++ rest) span.start) := by
  induction rest using line_shapes generalizing front with
  | empty =>
      refine ⟨[], fun span => ⟨nofun, ?_⟩, .nil, rfl⟩
      rintro ⟨found, behind⟩
      have inside := found.start_lt_length
      rw [List.append_nil] at inside
      exact absurd behind (Nat.not_le.mpr inside)
  | last line nonempty unbroken =>
      have found := LineAt.of_piece begins unbroken (.inr ⟨rfl, nonempty⟩)
      have source := lineSource_last front unbroken
      rw [List.append_nil] at found source
      refine ⟨[⟨front.length, front.length + line.length⟩], fun span => ?_, List.pairwise_singleton ..,
        ?_⟩
      · rw [List.mem_singleton, found.line_or_behind, or_iff_left]
        rintro ⟨another, behind⟩
        have inside := another.start_lt_length
        rw [List.length_append] at inside
        exact absurd behind (Nat.not_le.mpr (Nat.lt_succ_of_lt inside))
      · rw [linesOf_unbroken nonempty unbroken]
        simp [source]
  | fed line rest unbroken ih =>
      have found : LineAt (front ++ (line ++ '\n' :: rest)) _ := .of_piece begins unbroken (.inl rfl)
      have whole : front ++ (line ++ ['\n']) ++ rest = front ++ (line ++ '\n' :: rest) := by simp
      have place : (front ++ (line ++ ['\n'])).length = front.length + line.length + 1 := by simp; omega
      obtain ⟨spans, members, order, numbered⟩ := ih (front ++ (line ++ ['\n'])) (.inr (by simp))
      rw [whole, place] at members numbered
      rw [lineNumber_fed front line rest unbroken] at numbered
      refine ⟨⟨front.length, front.length + line.length⟩ :: spans, fun span => ?_, ?_, ?_⟩
      · rw [List.mem_cons, members, found.line_or_behind]
      · refine List.pairwise_cons.mpr ⟨fun later member => ?_, order⟩
        have behind := ((members later).mp member).2
        exact Nat.lt_of_lt_of_le (Nat.lt_succ_of_le (Nat.le_add_right _ _)) behind
      · rw [linesOf_fed unbroken, List.map_cons, List.zipIdx_cons, numbered, List.map_cons,
          lineSource_fed]

end Places

section Endings

variable {line text closing : List Char} {sources : List (List Char)}

theorem withReturns_append (front back : List Char) :
    withReturns (front ++ back) = withReturns front ++ withReturns back :=
  List.flatMap_append

theorem withReturns_unbroken (unbroken : '\n' ∉ line) : withReturns line = line := by
  induction line with
  | nil => rfl
  | cons c line ih =>
      obtain ⟨other, unbroken⟩ := not_or.mp (mt List.mem_cons.mpr unbroken)
      rw [withReturns, List.flatMap_cons, if_neg (Ne.symm other)]
      exact congrArg (c :: ·) (ih unbroken)

/-- The returns put in are the ones that are left out again. -/
theorem lines_withReturns (plain : '\r' ∉ text) :
    (linesOf (withReturns text)).map withoutLineEnd = (linesOf text).map withoutLineEnd := by
  induction text using line_shapes with
  | empty => rfl
  | last line nonempty unbroken => rw [withReturns_unbroken unbroken]
  | fed line rest unbroken ih =>
      obtain ⟨lineless, restless⟩ := not_or.mp (mt List.mem_append.mpr plain)
      have later := ih fun member => restless (List.mem_cons_of_mem _ member)
      have ended : withReturns (line ++ '\n' :: rest) = line ++ ['\r'] ++ '\n' :: withReturns rest := by
        rw [withReturns_append, withReturns_unbroken unbroken, List.append_assoc]
        rfl
      have whole : '\n' ∉ line ++ ['\r'] := by simp [unbroken]
      have last : line.getLast? ≠ some '\r' := fun found => lineless (List.mem_of_getLast? found)
      rw [ended, linesOf_fed whole, linesOf_fed unbroken, List.map_cons, List.map_cons, later,
        withoutLineEnd_fed, withoutLineEnd_fed]
      simp [last]

/-- Lines that are joined are cut again into the same lines. -/
theorem lines_intercalate (closed : closing = [] ∨ closing = ['\n']) (some : sources ≠ [])
    (lines : ∀ line ∈ sources, '\n' ∉ line ∧ line ≠ [] ∧ line.getLast? ≠ .some '\r') :
    (linesOf (['\n'].intercalate sources ++ closing)).map withoutLineEnd = sources := by
  induction sources with
  | nil => contradiction
  | cons line more ih =>
      obtain ⟨⟨unbroken, nonempty, last⟩, lines⟩ := List.forall_mem_cons.mp lines
      have source : withoutLineEnd (line ++ ['\n']) = line := by
        rw [withoutLineEnd_fed, if_neg last]
      by_cases single : more = []
      · subst single
        rw [List.intercalate_singleton]
        rcases closed with rfl | rfl
        · rw [List.append_nil, linesOf_unbroken nonempty unbroken, List.map_singleton,
            withoutLineEnd_unbroken unbroken]
        · rw [linesOf_fed unbroken, List.map_cons, source]
          rfl
      · rw [List.intercalate_cons_of_ne_nil single, List.append_assoc, List.append_assoc,
          List.singleton_append, linesOf_fed unbroken, List.map_cons, source, ih single lines]

theorem lineFeed_not_mem_lines (member : line ∈ (linesOf text).map withoutLineEnd) :
    '\n' ∉ line := by
  induction text using line_shapes with
  | empty => contradiction
  | last last nonempty unbroken =>
      rw [linesOf_unbroken nonempty unbroken, List.map_singleton, List.mem_singleton,
        withoutLineEnd_unbroken unbroken] at member
      exact member ▸ unbroken
  | fed first rest unbroken ih =>
      rw [linesOf_fed unbroken, List.map_cons, List.mem_cons] at member
      rcases member with rfl | later
      · exact lineFeed_not_mem_withoutLineEnd unbroken
      · exact ih later

end Endings

namespace Job

variable {path : String} {contents other closing : String} {sources : List String}

theorem lineFeed_not_mem_source {job : Job} (member : job ∈ ofContents path contents) :
    '\n' ∉ job.source.toList := by
  simp only [ofContents, List.mem_map, List.mem_filter, Prod.exists] at member
  obtain ⟨line, number, ⟨numbered, _⟩, rfl⟩ := member
  rw [String.toList_ofList]
  exact lineFeed_not_mem_lines (List.fst_mem_of_mem_zipIdx numbered)

theorem ofContents_eq_of_lines (same : (linesOf contents.toList).map withoutLineEnd =
      (linesOf other.toList).map withoutLineEnd) :
    ofContents path contents = ofContents path other := by
  rw [ofContents, ofContents, same]

theorem ofContents_eq_map {spans : List Span}
    (numbered : ((linesOf contents.toList).map withoutLineEnd).zipIdx 1 =
      spans.map fun span => (lineSource contents.toList span, lineNumber contents.toList span.start)) :
    ofContents path contents =
      (spans.filter fun span => !isBlankText (lineSource contents.toList span)).map fun span =>
        ⟨path ++ ":" ++ Decimal.ofNat (lineNumber contents.toList span.start),
          String.ofList (lineSource contents.toList span)⟩ := by
  rw [ofContents, numbered, List.filter_map, List.map_map]
  rfl

theorem ofContents_intercalate (closed : closing = "" ∨ closing = "\n")
    (lines : ∀ source ∈ sources, '\n' ∉ source.toList ∧ ¬ Blank source.toList ∧
      source.toList.getLast? ≠ some '\r') :
    ofContents path ("\n".intercalate sources ++ closing) =
      (sources.zipIdx 1).map fun line => ⟨path ++ ":" ++ Decimal.ofNat line.2, line.1⟩ := by
  by_cases nothing : sources = []
  · subst nothing
    rcases closed with rfl | rfl <;> rfl
  · have cut : (linesOf ("\n".intercalate sources ++ closing).toList).map withoutLineEnd =
        sources.map String.toList := by
      rw [String.toList_append, String.toList_intercalate]
      refine lines_intercalate ?_ (mt List.map_eq_nil_iff.mp nothing) ?_
      · exact closed.imp (congrArg String.toList) (congrArg String.toList)
      · intro line member
        obtain ⟨source, listed, rfl⟩ := List.mem_map.mp member
        obtain ⟨unbroken, filled, last⟩ := lines source listed
        refine ⟨unbroken, fun empty => filled ?_, last⟩
        rw [empty]
        exact nofun
    rw [ofContents, cut, List.zipIdx_map, List.filter_map, List.map_map, List.filter_eq_self.mpr]
    · simp [Function.comp_def]
    · rintro ⟨source, number⟩ numbered
      have filled := (lines source (List.fst_mem_of_mem_zipIdx numbered)).2.1
      simpa using isBlankText_eq_false_iff.mpr filled

end Job

/-- A file gives one job for each of its lines that is not blank, by the places of the lines. -/
theorem file_jobs_are_lines (path contents : String) :
    (∀ read : String → Except ReadError String, read path = .ok contents →
      (Input.file path).jobs read =
        .ok ([.event (.loaded path)], Job.ofContents path contents)) ∧
    (∃ spans : List Span,
      (∀ span, span ∈ spans ↔
        LineAt contents.toList span ∧ ¬ Blank (lineSource contents.toList span)) ∧
      spans.Pairwise (fun earlier later => earlier.start < later.start) ∧
      Job.ofContents path contents = spans.map fun span =>
        ⟨path ++ ":" ++ Decimal.ofNat (lineNumber contents.toList span.start),
          String.ofList (lineSource contents.toList span)⟩) ∧
    (∀ (sources : List String) (closing : String), closing = "" ∨ closing = "\n" →
      (∀ source ∈ sources, '\n' ∉ source.toList ∧ ¬ Blank source.toList ∧
        source.toList.getLast? ≠ some '\r') →
      Job.ofContents path ("\n".intercalate sources ++ closing) =
        (sources.zipIdx 1).map fun line => ⟨path ++ ":" ++ Decimal.ofNat line.2, line.1⟩) ∧
    ('\r' ∉ contents.toList →
      Job.ofContents path (String.ofList (withReturns contents.toList)) =
        Job.ofContents path contents) ∧
    ∀ job ∈ Job.ofContents path contents, '\n' ∉ job.source.toList := by
  obtain ⟨spans, members, order, numbered⟩ := exists_lines [] contents.toList (.inl rfl)
  rw [List.nil_append] at members numbered
  have jobs : Job.ofContents path contents = _ := Job.ofContents_eq_map numbered
  refine ⟨?_, ⟨_, ?_, order.filter _, jobs⟩, ?_, ?_, ?_⟩
  · intro read found
    simp [Input.jobs, found]
  · intro span
    rw [List.mem_filter, members]
    simp [isBlankText_eq_false_iff]
  · intro sources closing closed lines
    exact Job.ofContents_intercalate closed lines
  · intro plain
    apply Job.ofContents_eq_of_lines
    rw [String.toList_ofList]
    exact lines_withReturns plain
  · exact fun job member => Job.lineFeed_not_mem_source member

theorem file_jobs_of_three_lines :
    (Input.file "sums").jobs (fun _ => .ok "1\n\u2003\n 2") =
      .ok ([.event (.loaded "sums")], [⟨"sums:1", "1"⟩, ⟨"sums:3", " 2"⟩]) ∧
    '\r' ∉ "1\n\u2003\n 2".toList ∧
    Job.ofContents "sums" (String.ofList (withReturns "1\n\u2003\n 2".toList)) =
      [⟨"sums:1", "1"⟩, ⟨"sums:3", " 2"⟩] ∧
    Job.ofContents "sums" ("\n".intercalate ["1\r2", "+"] ++ "\n") =
      [⟨"sums:1", "1\r2"⟩, ⟨"sums:2", "+"⟩] := by
  obtain ⟨loaded, _, joined, returned, _⟩ := file_jobs_are_lines "sums" "1\n\u2003\n 2"
  have jobs : Job.ofContents "sums" "1\n\u2003\n 2" = [⟨"sums:1", "1"⟩, ⟨"sums:3", " 2"⟩] := rfl
  have plain : '\r' ∉ "1\n\u2003\n 2".toList := by decide
  have lines : ∀ source ∈ ["1\r2", "+"], '\n' ∉ source.toList ∧ ¬ Blank source.toList ∧
      source.toList.getLast? ≠ some '\r' := by
    intro source listed
    simp only [List.mem_cons, List.not_mem_nil, or_false] at listed
    rcases listed with rfl | rfl
    · exact ⟨by decide, fun blank => absurd (blank '1' (by decide)) (by decide), by decide⟩
    · exact ⟨by decide, fun blank => absurd (blank '+' (by decide)) (by decide), by decide⟩
  rw [jobs] at loaded returned
  exact ⟨loaded _ rfl, plain, returned plain, joined _ "\n" (.inr rfl) lines⟩

end FlatSum

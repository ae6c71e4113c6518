import FlatSum.Command.Run
import FlatSum.Proofs.OneLine
import FlatSum.Text.Cut

namespace FlatSum

/-! The rows of a token listing. Each token has a line of its own, numbered in order, and with places
the rows lose nothing: a column that a text overruns is still cut off by the blank behind it. -/

theorem replicate_append_cons (count : Nat) (c : Char) (rest : List Char) :
    List.replicate count c ++ c :: rest = c :: (List.replicate count c ++ rest) := by
  rw [List.append_cons, ← List.replicate_succ', List.replicate_succ, List.cons_append]

theorem Token.space_not_mem_form (token : Token) : ' ' ∉ token.form.toList := by
  cases token with
  | number value =>
      have digits : ' ' ∉ value.text.toList := Decimal.not_mem_ofInt (by decide) (by decide)
      simp [form, digits]
  | operator operator => cases operator <;> decide

namespace TokenTable

variable {positions : Bool} {index : Nat} {node other : Spanned Token}
  {nodes others : List (Spanned Token)}

/-- What a row says of its token. -/
def entry (positions : Bool) (node : Spanned Token) : String :=
  if positions then
    alignLeft 12 node.value.form ++ " | " ++ Decimal.ofNat node.span.start ++ ".." ++
      Decimal.ofNat node.span.stop
  else node.value.form

/-- A row without the line feed that ends it. -/
def line (positions : Bool) (index : Nat) (node : Spanned Token) : String :=
  alignRight 4 (Decimal.ofNat index) ++ " | " ++ entry positions node

theorem row_eq (positions : Bool) (index : Nat) (node : Spanned Token) :
    row positions index node = line positions index node ++ "\n" := by
  cases positions <;> rfl

/-- The rows of tokens that are numbered from the index on. -/
def lines (positions : Bool) (index : Nat) (nodes : List (Spanned Token)) : List String :=
  (nodes.zipIdx index).map fun node => line positions node.2 node.1

/-- Lines as they are printed, with a line feed behind each. -/
def printed (lines : List String) : String := String.join (lines.map (· ++ "\n"))

theorem block_eq (positions : Bool) (name : String) (nodes : List (Spanned Token)) :
    block positions name nodes =
      "Tokens for " ++ name ++ ":\n\n" ++ rule ++ printed (lines positions 0 nodes) ++ rule ++
        "\nTotal tokens: " ++ Decimal.ofNat nodes.length ++ "\n" := by
  have rows : (nodes.zipIdx.map fun node => row positions node.2 node.1) =
      (lines positions 0 nodes).map (· ++ "\n") := by
    simp only [lines, List.map_map, row_eq, Function.comp_def]
  unfold block printed
  rw [rows]

theorem oneLine_alignRight (width : Nat) {text : String} (whole : OneLine text) :
    OneLine (alignRight width text) := by
  rw [alignRight, OneLine.append_iff]
  exact ⟨by simp [OneLine], whole⟩

theorem oneLine_alignLeft (width : Nat) {text : String} (whole : OneLine text) :
    OneLine (alignLeft width text) := by
  rw [alignLeft, OneLine.append_iff]
  exact ⟨whole, by simp [OneLine]⟩

theorem oneLine_line (positions : Bool) (index : Nat) (node : Spanned Token) :
    OneLine (line positions index node) := by
  have bar : OneLine " | " := by decide
  have dots : OneLine ".." := by decide
  have number := oneLine_alignRight 4 (OneLine.ofNat index)
  have form := oneLine_alignLeft 12 (OneLine.tokenForm node.value)
  cases positions <;> simp [line, entry, bar, dots, number, form]

/-- The text of a place entry, cut where its columns end. -/
theorem toList_entry (node : Spanned Token) :
    (entry true node).toList = node.value.form.toList ++ ' ' ::
      (List.replicate (12 - node.value.form.length) ' ' ++ '|' :: ' ' ::
        ((Decimal.ofNat node.span.start).toList ++ '.' :: '.' ::
          (Decimal.ofNat node.span.stop).toList)) := by
  rw [← replicate_append_cons]
  simp [entry, alignLeft]

theorem entry_injective (same : entry true node = entry true other) : node = other := by
  have cut := congrArg String.toList same
  -- However wide the form is, the first blank is the one behind it: the column may be overrun.
  rw [toList_entry, toList_entry] at cut
  obtain ⟨form, places⟩ := eq_of_cut (Token.space_not_mem_form _) (Token.space_not_mem_form _) cut
  have value := Token.form_injective (String.toList_inj.mp form)
  rw [value] at places
  have bounds := (List.cons.inj (List.cons.inj (List.append_cancel_left places)).2).2
  obtain ⟨start, behind⟩ := Decimal.eq_of_cut (by decide) bounds
  have stop := Decimal.ofNat_injective (String.toList_inj.mp (List.cons.inj behind).2)
  obtain ⟨_, _, _⟩ := node
  obtain ⟨_, _, _⟩ := other
  simp_all

theorem line_injective (same : line true index node = line true index other) : node = other :=
  entry_injective ((String.append_right_inj _).mp same)

/-- A row begins with a blank or a digit, and so not as a rule does. -/
theorem ruled_ne_line {rest behind : List Char} :
    '=' :: rest ≠ (line positions index node).toList ++ behind := by
  intro same
  have number : '=' ∉ (alignRight 4 (Decimal.ofNat index)).toList := by
    intro member
    rw [alignRight, String.toList_append, List.mem_append, String.toList_ofList] at member
    rcases member with blank | digit
    · exact absurd (List.eq_of_mem_replicate blank) (by decide)
    · exact absurd (Decimal.isDigit_of_mem_ofNat digit) (by decide)
  cases shown : (alignRight 4 (Decimal.ofNat index)).toList with
  | nil =>
      rw [alignRight, String.toList_append, List.append_eq_nil_iff] at shown
      exact Decimal.ofNat_ne_empty index shown.2
  | cons c digits =>
      simp only [line, String.toList_append, shown, List.cons_append, List.cons.injEq] at same
      rw [shown, same.1] at number
      exact number List.mem_cons_self

theorem toList_printed_cons (positions : Bool) (index : Nat) (node : Spanned Token)
    (nodes : List (Spanned Token)) :
    (printed (lines positions index (node :: nodes))).toList =
      (line positions index node).toList ++
        '\n' :: (printed (lines positions (index + 1) nodes)).toList := by
  simp [printed, lines, List.zipIdx_cons]

/-- Rows and what follows them, up to a rule, give the tokens back. -/
theorem nodes_eq_of_printed {tail rest : List Char}
    (same : (printed (lines true index nodes)).toList ++ '=' :: tail =
      (printed (lines true index others)).toList ++ '=' :: rest) :
    nodes = others := by
  induction nodes generalizing others index with
  | nil =>
      cases others with
      | nil => rfl
      | cons other others =>
          rw [toList_printed_cons, List.append_assoc] at same
          exact absurd same ruled_ne_line
  | cons node nodes ih =>
      cases others with
      | nil =>
          rw [toList_printed_cons, List.append_assoc] at same
          exact absurd same.symm ruled_ne_line
      | cons other others =>
          -- No line holds a line feed, so both texts are cut at the end of the first row.
          simp only [toList_printed_cons, List.append_assoc, List.cons_append] at same
          obtain ⟨first, later⟩ :=
            eq_of_cut (oneLine_line true index node) (oneLine_line true index other) same
          rw [line_injective (String.toList_inj.mp first), ih later]

/-- With places, the listing of tokens under a name gives them back. -/
theorem block_injective {name : String} (same : block true name nodes = block true name others) :
    nodes = others := by
  obtain ⟨tail, ruled⟩ : ∃ tail, rule.toList = '=' :: tail := by
    unfold rule
    exact ⟨_, String.toList_append⟩
  have shape : ∀ nodes, ∃ rest, (block true name nodes).toList =
      ("Tokens for " ++ name ++ ":\n\n" ++ rule).toList ++
        ((printed (lines true 0 nodes)).toList ++ '=' :: rest) := by
    intro nodes
    refine ⟨tail ++ ("\nTotal tokens: " ++ Decimal.ofNat nodes.length ++ "\n").toList, ?_⟩
    rw [block_eq]
    simp only [String.toList_append, List.append_assoc, ruled, List.cons_append]
  obtain ⟨rest, text⟩ := shape nodes
  obtain ⟨rest', text'⟩ := shape others
  rw [same, text'] at text
  exact (nodes_eq_of_printed (List.append_cancel_left text)).symm

end TokenTable

end FlatSum

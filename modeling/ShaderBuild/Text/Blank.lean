import ShaderBuild.Text.Pieces

/-! # Blank characters and words

`isBlank` is the Unicode property `White_Space`; `words` lists the maximal runs of characters that
are not blank.  No word is empty (`ne_nil_of_mem_wordsOf`) and no word holds a blank
(`not_isBlank_of_mem_wordsOf`). -/

namespace ShaderBuild

/-! ### Executable definitions -/

/-- The characters with the Unicode property `White_Space`. -/
def isBlank (c : Char) : Bool :=
  let n := c.toNat
  (0x09 ≤ n && n ≤ 0x0d) || n == 0x20 || n == 0x85 || n == 0xa0 || n == 0x1680
    || (0x2000 ≤ n && n ≤ 0x200a) || n == 0x2028 || n == 0x2029 || n == 0x202f || n == 0x205f
    || n == 0x3000

/-- The words of a list of characters: its pieces between blanks, without the empty ones. -/
def wordsOf (cs : List Char) : List (List Char) :=
  (pieces isBlank cs).filter fun w => !w.isEmpty

/-- The words of a text, in order. -/
def words (s : String) : List String :=
  (wordsOf s.toList).map String.ofList

/-! ### Words are non-empty and hold no blank -/

/-- Every character that core counts as white space is blank. -/
theorem isBlank_of_isWhitespace {c : Char} (h : c.isWhitespace = true) : isBlank c = true := by
  simp only [Char.isWhitespace, Bool.or_eq_true, decide_eq_true_eq] at h
  rcases h with ((rfl | rfl) | rfl) | rfl <;> decide

theorem ne_nil_of_mem_wordsOf {cs w : List Char} (h : w ∈ wordsOf cs) : w ≠ [] := by
  have := (List.mem_filter.1 h).2
  simpa using this

theorem not_isBlank_of_mem_wordsOf {cs w : List Char} (h : w ∈ wordsOf cs) {c : Char}
    (hc : c ∈ w) : isBlank c = false :=
  not_sep_of_mem_pieces isBlank (List.mem_filter.1 h).1 hc

end ShaderBuild

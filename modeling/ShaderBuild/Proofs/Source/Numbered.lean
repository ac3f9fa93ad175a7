import Mathlib.Data.List.Basic
import ShaderBuild.Source.File

/-! # Numbered lines

The lines of a file have the numbers from zero on.  So a file is given by its path and the texts of
its lines (`SourceFile.eq_of_texts_eq`), and the line at the place `i` is the one with the number
`i` (`getElem?_eq_some_iff_of_numbered`). -/

namespace ShaderBuild

/-- Texts as lines that are numbered from `k` on. -/
def numberedFrom : ℕ → List String → List Line
  | _, [] => []
  | k, t :: ts => ⟨k, t⟩ :: numberedFrom (k + 1) ts

/-- The numbers of the lines whose texts satisfy `p`, in order. -/
def numbersWhere (p : String → Bool) (ls : List Line) : List ℕ :=
  (ls.filter fun l => p l.text).map Line.index

section
variable {k : ℕ} {ts : List String}

@[simp]
theorem map_text_numberedFrom (k : ℕ) (ts : List String) :
    (numberedFrom k ts).map Line.text = ts := by
  induction ts generalizing k with
  | nil => rfl
  | cons t ts ih => rw [numberedFrom, List.map_cons, ih]

@[simp]
theorem map_index_numberedFrom (k : ℕ) (ts : List String) :
    (numberedFrom k ts).map Line.index = List.range' k ts.length := by
  induction ts generalizing k with
  | nil => rfl
  | cons t ts ih => rw [numberedFrom, List.map_cons, ih, List.length_cons, List.range'_succ]

@[simp]
theorem length_numberedFrom (k : ℕ) (ts : List String) :
    (numberedFrom k ts).length = ts.length := by
  rw [← List.length_map (f := Line.text), map_text_numberedFrom]

theorem numberedFrom_append (k : ℕ) (ts us : List String) :
    numberedFrom k (ts ++ us) = numberedFrom k ts ++ numberedFrom (k + ts.length) us := by
  induction ts generalizing k with
  | nil => rfl
  | cons t ts ih =>
      rw [List.cons_append, numberedFrom, ih, numberedFrom, List.cons_append, List.length_cons,
        Nat.add_assoc, Nat.add_comm 1]

theorem drop_numberedFrom (n k : ℕ) (ts : List String) :
    (numberedFrom k ts).drop n = numberedFrom (k + n) (ts.drop n) := by
  induction n generalizing k ts with
  | zero => rfl
  | succ n ih =>
      cases ts with
      | nil => rfl
      | cons t ts => rw [numberedFrom, List.drop_succ_cons, ih, List.drop_succ_cons,
          Nat.add_assoc, Nat.add_comm 1]

/-- Lines are determined by their numbers and their texts. -/
theorem eq_numberedFrom {ls : List Line} (h : ls.map Line.index = List.range' k ls.length) :
    ls = numberedFrom k (ls.map Line.text) := by
  induction ls generalizing k with
  | nil => rfl
  | cons l ls ih =>
      rw [List.map_cons, List.length_cons, List.range'_succ, List.cons_eq_cons] at h
      obtain ⟨rfl, hls⟩ := h
      rw [List.map_cons, numberedFrom, ← ih hls]

/-- Where lines are numbered from zero on, the one at the place `i` is the one with the number `i`.
-/
theorem getElem?_eq_some_iff_of_numbered {ls : List Line}
    (h : ls.map Line.index = List.range ls.length) {i : ℕ} {l : Line} :
    ls[i]? = some l ↔ l ∈ ls ∧ l.index = i := by
  have hindex : ∀ j (hj : j < ls.length), ls[j].index = j := by
    intro j hj
    have hget := List.getElem_of_eq h (by rwa [List.length_map])
    rwa [List.getElem_map, List.getElem_range] at hget
  constructor
  · intro hl
    obtain ⟨hi, rfl⟩ := List.getElem?_eq_some_iff.mp hl
    exact ⟨List.getElem_mem hi, hindex i hi⟩
  · rintro ⟨hl, rfl⟩
    obtain ⟨j, hj, rfl⟩ := List.getElem_of_mem hl
    rw [hindex j hj, List.getElem?_eq_getElem hj]

theorem numbersWhere_append (p : String → Bool) (ls ls' : List Line) :
    numbersWhere p (ls ++ ls') = numbersWhere p ls ++ numbersWhere p ls' := by
  rw [numbersWhere, List.filter_append, List.map_append]
  rfl

theorem numbersWhere_cons (p : String → Bool) (l : Line) (ls : List Line) :
    numbersWhere p (l :: ls) = if p l.text then l.index :: numbersWhere p ls
      else numbersWhere p ls := by
  rw [numbersWhere, List.filter_cons]
  split <;> rfl

theorem numbersWhere_eq_nil_iff {p : String → Bool} {ls : List Line} :
    numbersWhere p ls = [] ↔ ∀ t ∈ ls.map Line.text, p t = false := by
  simp [numbersWhere]

end

namespace SourceFile

/-- The texts of the lines of a file. -/
def texts (f : SourceFile) : List String :=
  f.lines.map Line.text

/-- The file with this path and these texts as its lines. -/
def ofTexts (path : Path) (ts : List String) : SourceFile where
  path := path
  lines := numberedFrom 0 ts
  numbered := by rw [map_index_numberedFrom, length_numberedFrom, List.range_eq_range']

/-- The numbers of the lines whose texts satisfy `p`, in order. -/
def linesWhere (f : SourceFile) (p : String → Bool) : List ℕ :=
  numbersWhere p f.lines

variable {f g : SourceFile} {i : ℕ}

@[simp]
theorem path_ofTexts (path : Path) (ts : List String) : (ofTexts path ts).path = path := rfl

@[simp]
theorem texts_ofTexts (path : Path) (ts : List String) : (ofTexts path ts).texts = ts :=
  map_text_numberedFrom 0 ts

theorem lines_eq_numberedFrom (f : SourceFile) : f.lines = numberedFrom 0 f.texts :=
  eq_numberedFrom (by rw [f.numbered, List.range_eq_range'])

theorem drop_lines (f : SourceFile) (k : ℕ) :
    f.lines.drop k = numberedFrom k (f.texts.drop k) := by
  rw [f.lines_eq_numberedFrom, drop_numberedFrom, Nat.zero_add]

theorem lines_eq_iff_texts_eq : f.lines = g.lines ↔ f.texts = g.texts := by
  constructor
  · exact fun h => congrArg (List.map Line.text) h
  · intro h
    rw [f.lines_eq_numberedFrom, g.lines_eq_numberedFrom, h]

theorem eq_of_texts_eq (hpath : f.path = g.path) (h : f.texts = g.texts) : f = g := by
  have hlines := lines_eq_iff_texts_eq.mpr h
  cases f
  cases g
  cases hpath
  cases hlines
  rfl

theorem text?_eq (f : SourceFile) (i : ℕ) : f.text? i = f.texts[i]? :=
  List.getElem?_map.symm

theorem mem_texts_iff {t : String} : t ∈ f.texts ↔ ∃ i, f.text? i = some t := by
  simp only [text?_eq, List.mem_iff_getElem?]

end SourceFile

end ShaderBuild

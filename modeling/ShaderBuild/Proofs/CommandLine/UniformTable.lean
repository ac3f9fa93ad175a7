import ShaderBuild.CommandLine
import ShaderBuild.Proofs.Block.Grammar
import ShaderBuild.Proofs.Block.Layout
import ShaderBuild.Proofs.Include.Assembly

/-! # The table of a uniform block

The tool prints the layout of a uniform block as a table, or it prints nothing and fails
(`runTool_uniforms`).  The padding of the columns is lost on those who read words
(`words_padLeft`, `words_padRight`), and the types and names of a block that has been read are words
themselves, so a row has four words whatever it is about (`isRow_rowText`).  The two lists that the
rows are made from go together because every field is placed once, in order (`Places.areRows`). -/

namespace ShaderBuild

/-- The row shows the field `f` at its place `p`: its words are the offset, the size, the type as it
is declared and the name. -/
structure IsRow (f : UniformField) (p : PlacedField) (row : String) : Prop where
  words_eq : words row = [Nat.repr p.offset.toNat, Nat.repr p.size.toNat, f.type, f.name]
  one_line : '\n' ∉ row.toList

/-- One row for each field, in order, and no other. -/
inductive AreRows : List UniformField → List PlacedField → List String → Prop
  | nil : AreRows [] [] []
  | cons {f p row fs ps rows} : IsRow f p row → AreRows fs ps rows →
      AreRows (f :: fs) (p :: ps) (row :: rows)

/-- The line above the rows, if the block has a name. -/
def titleLines : Option String → List String
  | none => []
  | some n => ["block " ++ n]

/-- The lines show the block `b` with the layout `l`. -/
structure IsTable (b : UniformBlock) (l : UniformLayout) (ls : List String) : Prop where
  rows : ∃ rows, AreRows b.fields l.fields rows ∧
    ls = titleLines b.name ++ rows ++ ["size " ++ Nat.repr l.size.toNat]
  one_line : ∀ t ∈ ls, '\n' ∉ t.toList

/-- Lines as they are printed, each with its end. -/
def printedLines (ls : List String) : String :=
  String.join (ls.map fun t => t ++ "\n")

/-- The shader flattens, and `b` is its uniform block. -/
def Shader.HasBlock (disk : Disk) (s : Shader) (b : UniformBlock) : Prop :=
  ∃ out, s.preprocess disk defaultMaxDepth = .ok out ∧ out.block = some b

/-- Every field names a type. -/
def KnownTypes (fs : List UniformField) : Prop :=
  ∀ f ∈ fs, UniformType.ofString? f.type ≠ none

/-! ### Words in columns -/

theorem wordsOf_append_cons {c : Char} (hc : isBlank c = true) (cs ds : List Char) :
    wordsOf (cs ++ c :: ds) = wordsOf cs ++ wordsOf ds := by
  rw [wordsOf, pieces_append_cons hc, List.filter_append]
  rfl

theorem words_append_space (s t : String) : words (s ++ " " ++ t) = words s ++ words t := by
  rw [words, toList_append_space, wordsOf_append_cons (by decide), List.map_append]
  rfl

theorem wordsOf_spaces_append (n : ℕ) (cs : List Char) :
    wordsOf (List.replicate n ' ' ++ cs) = wordsOf cs := by
  induction n with
  | zero => rfl
  | succ n ih =>
      rw [List.replicate_succ, List.cons_append, ← List.nil_append (' ' :: _),
        wordsOf_append_cons (by decide), ih]
      rfl

theorem wordsOf_append_spaces (n : ℕ) (cs : List Char) :
    wordsOf (cs ++ List.replicate n ' ') = wordsOf cs := by
  cases n with
  | zero => rw [List.replicate_zero, List.append_nil]
  | succ n =>
      have hspaces := wordsOf_spaces_append n []
      rw [List.append_nil] at hspaces
      rw [List.replicate_succ, wordsOf_append_cons (by decide), hspaces]
      exact List.append_nil _

theorem words_padLeft (width : ℕ) (s : String) : words (padLeft width s) = words s := by
  rw [words, padLeft, String.toList_ofList, wordsOf_spaces_append, words]

theorem words_padRight (width : ℕ) (s : String) : words (padRight width s) = words s := by
  rw [words, padRight, String.toList_ofList, wordsOf_append_spaces, words]

theorem not_isBlank_of_isDigit {c : Char} (h : c.isDigit = true) : isBlank c = false := by
  have hrange : 48 ≤ c.toNat ∧ c.toNat ≤ 57 := by
    simpa [Char.isDigit, UInt32.le_iff_toNat_le] using h
  simp only [isBlank, Bool.or_eq_false_iff, Bool.and_eq_false_iff, decide_eq_false_iff_not,
    beq_eq_false_iff_ne]
  omega

theorem isWord_repr (n : ℕ) : IsWord (Nat.repr n) := by
  refine ⟨Nat.repr_ne_empty, ?_⟩
  intro c hc
  rw [Nat.toList_repr] at hc
  exact not_isBlank_of_isDigit (Nat.isDigit_of_mem_toDigits (by decide) (by decide) hc)

/-! ### Lines of the table -/

/-- The row of a field without the end of its line. -/
def rowText (f : UniformField) (p : PlacedField) : String :=
  padLeft 5 (Nat.repr p.offset.toNat) ++ " " ++ padLeft 4 (Nat.repr p.size.toNat) ++ " "
    ++ padRight 6 f.type ++ " " ++ p.name

theorem IsWord.one_line {s : String} (h : IsWord s) : '\n' ∉ s.toList := by
  intro hc
  have hblank := h.not_isBlank _ hc
  revert hblank
  decide

theorem one_line_append {s t : String} (hs : '\n' ∉ s.toList) (ht : '\n' ∉ t.toList) :
    '\n' ∉ (s ++ t).toList := by
  rw [String.toList_append, List.mem_append, not_or]
  exact ⟨hs, ht⟩

theorem one_line_padLeft {s : String} (h : '\n' ∉ s.toList) (width : ℕ) :
    '\n' ∉ (padLeft width s).toList := by
  simp [padLeft, h]

theorem one_line_padRight {s : String} (h : '\n' ∉ s.toList) (width : ℕ) :
    '\n' ∉ (padRight width s).toList := by
  simp [padRight, h]

theorem isRow_rowText {f : UniformField} {p : PlacedField} (htype : IsWord f.type)
    (hname : IsWord f.name) (hp : p.name = f.name) : IsRow f p (rowText f p) := by
  have hoffset := isWord_repr p.offset.toNat
  have hsize := isWord_repr p.size.toNat
  have hspace : '\n' ∉ " ".toList := by decide
  constructor
  · rw [rowText, words_append_space, words_append_space, words_append_space, words_padLeft,
      words_padLeft, words_padRight, hoffset.words_eq, hsize.words_eq, htype.words_eq, hp,
      hname.words_eq]
    rfl
  · rw [rowText, hp]
    have hfirst := one_line_append (one_line_padLeft hoffset.one_line 5) hspace
    have hsecond := one_line_append
      (one_line_append hfirst (one_line_padLeft hsize.one_line 4)) hspace
    have hthird := one_line_append
      (one_line_append hsecond (one_line_padRight htype.one_line 6)) hspace
    exact one_line_append hthird hname.one_line

theorem AreRows.one_line {fs : List UniformField} {ps : List PlacedField} {rows : List String}
    (h : AreRows fs ps rows) : ∀ t ∈ rows, '\n' ∉ t.toList := by
  induction h with
  | nil => simp
  | cons hrow _ ih => exact List.forall_mem_cons.mpr ⟨hrow.one_line, ih⟩

/-- A row for each field that is placed. -/
theorem Places.areRows {next last : UInt32} {fs : List UniformField} {ps : List PlacedField}
    (h : Places next fs ps last) (hfs : ∀ f ∈ fs, IsWord f.type ∧ IsWord f.name) :
    AreRows fs ps (List.zipWith rowText fs ps) := by
  induction h with
  | nil => exact .nil
  | cons _ _ ih =>
      obtain ⟨hf, hrest⟩ := List.forall_mem_cons.mp hfs
      exact .cons (isRow_rowText hf.1 hf.2 rfl) (ih hrest)

/-- The lines of the table of a block with its layout. -/
def tableLines (b : UniformBlock) (l : UniformLayout) : List String :=
  titleLines b.name ++ List.zipWith rowText b.fields l.fields ++ ["size " ++ Nat.repr l.size.toNat]

theorem printedLines_append (ls ls' : List String) :
    printedLines (ls ++ ls') = printedLines ls ++ printedLines ls' := by
  rw [printedLines, List.map_append, String.join_append]
  rfl

theorem blockTable_eq (b : UniformBlock) (l : UniformLayout) :
    blockTable b l = printedLines (tableLines b l) := by
  have htitle : b.name.elim "" (fun n => "block " ++ n ++ "\n") =
      printedLines (titleLines b.name) := by
    cases b.name <;> simp [titleLines, printedLines]
  have hrows : printedLines (List.zipWith rowText b.fields l.fields) =
      String.join (List.zipWith fieldRow b.fields l.fields) := by
    rw [printedLines, List.map_zipWith]
    rfl
  rw [tableLines, printedLines_append, printedLines_append, hrows, ← htitle, blockTable]
  simp [printedLines, String.append_assoc]

theorem isTable_tableLines {b : UniformBlock} {l : UniformLayout} (hb : b.WellShaped)
    (hl : layout b.fields = .ok l) : IsTable b l (tableLines b l) := by
  obtain ⟨_, hplaces, _⟩ := layout_eq_ok_iff.mp hl
  have hrows := hplaces.areRows fun f hf => ⟨(hb.type f hf).1, hb.fieldName f hf⟩
  refine ⟨⟨_, hrows, rfl⟩, ?_⟩
  intro t ht
  rw [tableLines, List.mem_append, List.mem_append, List.mem_singleton] at ht
  obtain (ht | ht) | rfl := ht
  · cases hname : b.name with
    | none =>
        rw [hname] at ht
        cases ht
    | some n =>
        rw [hname, titleLines, List.mem_singleton] at ht
        rw [ht]
        exact one_line_append (by decide) (hb.name n hname).one_line
  · exact hrows.one_line t ht
  · exact one_line_append (by decide) (isWord_repr _).one_line

/-! ### Running the tool -/

section
variable {disk : Disk} {s : Shader} {b : UniformBlock} {fs : List UniformField}

theorem NameTypes.knownTypes {ts : List UniformType} (h : NameTypes fs ts) : KnownTypes fs := by
  induction h with
  | nil => simp [KnownTypes]
  | cons hf _ ih => exact List.forall_mem_cons.mpr ⟨by simp [hf], ih⟩

/-- Fields have a layout exactly if their types are known. -/
theorem exists_layout_iff : (∃ l, layout fs = .ok l) ↔ KnownTypes fs := by
  constructor
  · rintro ⟨l, h⟩
    obtain ⟨_, hplaces, _⟩ := layout_eq_ok_iff.mp h
    exact hplaces.nameTypes.knownTypes
  · intro hknown
    cases h : layout fs with
    | ok l => exact ⟨l, rfl⟩
    | error e =>
        obtain ⟨pre, f, post, rfl, _, hf, _⟩ := layout_eq_error_iff.mp h
        exact absurd hf (hknown f (by simp))

/-- The uniform block of a shader consists of words. -/
theorem Shader.HasBlock.wellShaped (h : s.HasBlock disk b) : b.WellShaped := by
  obtain ⟨out, hout, hb⟩ := h
  obtain ⟨file, _, hfile⟩ := bind_eq_ok_iff.mp hout
  obtain ⟨_, marker, _, hmarker, _⟩ := preprocessFile_eq_ok_iff.mp hfile
  obtain ⟨_, hnone⟩ | ⟨start, b', _, hparse, hsome⟩ := mapM_eq_ok_iff.mp hmarker
  · rw [hb] at hnone
    cases hnone
  · rw [hb] at hsome
    cases hsome
    exact UniformBlock.wellShaped_of_parse hparse

theorem Shader.HasBlock.unique {b' : UniformBlock} (h : s.HasBlock disk b)
    (h' : s.HasBlock disk b') : b = b' := by
  obtain ⟨out, hout, hb⟩ := h
  obtain ⟨out', hout', hb'⟩ := h'
  rw [hout] at hout'
  cases hout'
  exact Option.some.inj (hb.symm.trans hb')

namespace Command

theorem flatten_eq_ok_iff {out : Flattened} :
    flatten disk s = .ok out ↔ s.preprocess disk defaultMaxDepth = .ok out := by
  unfold flatten
  cases s.preprocess disk defaultMaxDepth <;> simp [Except.mapError]

theorem uniformTable_eq_ok_iff {table : String} : uniformTable disk s = .ok table ↔
    ∃ b l, s.HasBlock disk b ∧ layout b.fields = .ok l ∧ table = blockTable b l := by
  simp only [uniformTable, bind, bind_eq_ok_iff, flatten_eq_ok_iff]
  constructor
  · rintro ⟨out, hout, h⟩
    split at h
    · cases h
    · next b hb =>
        split at h
        · cases h
        · next l hl =>
            cases h
            exact ⟨b, l, ⟨out, hout, hb⟩, hl, rfl⟩
  · rintro ⟨b, l, ⟨out, hout, hb⟩, hl, rfl⟩
    refine ⟨out, hout, ?_⟩
    rw [hb]
    dsimp only
    rw [hl]
    rfl

/-- There is a table exactly if the shader has a uniform block whose types are known. -/
theorem exists_uniformTable_iff : (∃ table, uniformTable disk s = .ok table) ↔
    ∃ b, s.HasBlock disk b ∧ KnownTypes b.fields := by
  constructor
  · rintro ⟨table, h⟩
    obtain ⟨b, l, hb, hl, _⟩ := uniformTable_eq_ok_iff.mp h
    exact ⟨b, hb, exists_layout_iff.mp ⟨l, hl⟩⟩
  · rintro ⟨b, hb, hknown⟩
    obtain ⟨l, hl⟩ := exists_layout_iff.mpr hknown
    exact ⟨_, uniformTable_eq_ok_iff.mpr ⟨b, l, hb, hl, rfl⟩⟩

end Command

end

section
variable (launch : Launcher) {args : List Bytes} {s : Shader} (m : Machine)

theorem Command.run_uniforms (c : Compiler) : run launch c (.uniforms s) m =
    match uniformTable m.files.disk s with
    | .error e => (.error e, m)
    | .ok table => (.ok 0, m.print table) :=
  Eq.refl _

theorem runTool_of_table {table : String} (hargs : Command.parse args = .ok (.uniforms s))
    (h : Command.uniformTable m.files.disk s = .ok table) :
    runTool launch args m = (0, m.print table) := by
  rw [runTool, hargs]
  dsimp only
  rw [Command.run_uniforms, h]

theorem runTool_of_no_table {e : Report} (hargs : Command.parse args = .ok (.uniforms s))
    (h : Command.uniformTable m.files.disk s = .error e) :
    runTool launch args m = (1, m.printError e.line) := by
  rw [runTool, hargs]
  dsimp only
  rw [Command.run_uniforms, h]

/-- Types that are known are enough for the table to be printed. -/
theorem runTool_of_knownTypes {b : UniformBlock} (hargs : Command.parse args = .ok (.uniforms s))
    (hb : s.HasBlock m.files.disk b) (hknown : KnownTypes b.fields) :
    ∃ l, layout b.fields = .ok l ∧
      runTool launch args m = (0, m.print (printedLines (tableLines b l))) := by
  obtain ⟨l, hl⟩ := exists_layout_iff.mpr hknown
  refine ⟨l, hl, ?_⟩
  rw [← blockTable_eq]
  exact runTool_of_table launch m hargs
    (Command.uniformTable_eq_ok_iff.mpr ⟨b, l, hb, hl, rfl⟩)

theorem runTool_of_not_knownTypes (hargs : Command.parse args = .ok (.uniforms s))
    (hno : ¬ ∃ b, s.HasBlock m.files.disk b ∧ KnownTypes b.fields) :
    ∃ e : Report, runTool launch args m = (1, m.printError e.line) := by
  cases h : Command.uniformTable m.files.disk s with
  | ok table => exact absurd (Command.exists_uniformTable_iff.mp ⟨table, h⟩) hno
  | error e => exact ⟨e, runTool_of_no_table launch m hargs h⟩

/-- Asked for the uniforms of a shader, the tool prints the whole table of its uniform block or
nothing.  It succeeds exactly if the shader flattens and has a block whose types are known; what it
prints then has one row for each field, at its place in the tight layout, between the name of the
block and the size. -/
theorem runTool_uniforms (hargs : Command.parse args = .ok (.uniforms s))
    (hfit : ∀ b ts, s.HasBlock m.files.disk b → NameTypes b.fields ts →
      exactSize ts < UInt32.size) :
    ((runTool launch args m).1 = 0 ↔ ∃ b, s.HasBlock m.files.disk b ∧ KnownTypes b.fields) ∧
    (∀ b, s.HasBlock m.files.disk b → KnownTypes b.fields →
      ∃ l ls, IsTight b.fields l ∧ IsTable b l ls ∧
        runTool launch args m = (0, m.print (printedLines ls))) ∧
    ((¬ ∃ b, s.HasBlock m.files.disk b ∧ KnownTypes b.fields) →
      (runTool launch args m).1 ≠ 0 ∧ (runTool launch args m).2.stdout = m.stdout) := by
  refine ⟨⟨?_, ?_⟩, ?_, ?_⟩
  · intro hcode
    by_contra hno
    obtain ⟨e, he⟩ := runTool_of_not_knownTypes launch m hargs hno
    rw [he] at hcode
    exact absurd hcode (by simp)
  · rintro ⟨b, hb, hknown⟩
    obtain ⟨l, _, hrun⟩ := runTool_of_knownTypes launch m hargs hb hknown
    rw [hrun]
  · intro b hb hknown
    obtain ⟨l, hl, hrun⟩ := runTool_of_knownTypes launch m hargs hb hknown
    obtain ⟨_, hplaces, _⟩ := layout_eq_ok_iff.mp hl
    have hfits := placementFits_zero_iff.mpr (hfit b _ hb hplaces.nameTypes)
    exact ⟨l, tableLines b l, isTight_of_layout hl hfits, isTable_tableLines hb.wellShaped hl, hrun⟩
  · intro hno
    obtain ⟨e, he⟩ := runTool_of_not_knownTypes launch m hargs hno
    rw [he]
    exact ⟨by simp, rfl⟩

end

/-- A tree with one shader, `s/x.frag`, whose block has two fields and a name. -/
def litShader : FileTree where
  root := FileTree.directory [("s", FileTree.directory [("x.frag", .file 0)])]
  bodies := #[⟨"UNIFORM_BLOCK Light\nvec3 direction;\n mat4 view\nEND_UNIFORM_BLOCK\n".toByteArray,
    .plain, 0⟩]
  workingDir := []
  clock := 0

/-- The block of that shader. -/
def litBlock : UniformBlock :=
  ⟨some "Light", 0, 3, [⟨"vec3", "direction"⟩, ⟨"mat4", "view"⟩]⟩

theorem runTool_uniforms_litShader :
    let s : Shader := ⟨"x", .fragment, .ofString "s"⟩
    let m : Machine := { files := litShader }
    Command.parse (Command.uniforms s).toArgs = .ok (.uniforms s) ∧
    (∀ b ts, s.HasBlock m.files.disk b → NameTypes b.fields ts → exactSize ts < UInt32.size) ∧
    s.HasBlock m.files.disk litBlock ∧ KnownTypes litBlock.fields ∧
    ∃ l ls, IsTight litBlock.fields l ∧ IsTable litBlock l ls ∧
      runTool (fun _ m => (.ok (.exited 0), m)) (Command.uniforms s).toArgs m =
        (0, m.print (printedLines ls)) := by
  intro s m
  have hargs : Command.parse (Command.uniforms s).toArgs = .ok (.uniforms s) := by decide +kernel
  have hblock : s.HasBlock m.files.disk litBlock :=
    ⟨⟨"UNIFORM_BLOCK Light\nvec3 direction;\nmat4 view\nEND_UNIFORM_BLOCK", some litBlock⟩,
      by decide +kernel, rfl⟩
  have htypes : NameTypes litBlock.fields [.vec3, .mat4] := .cons rfl (.cons rfl .nil)
  have hfit : ∀ b ts, s.HasBlock m.files.disk b → NameTypes b.fields ts →
      exactSize ts < UInt32.size := by
    intro b ts hb hts
    rw [hb.unique hblock] at hts
    rw [hts.unique htypes]
    decide
  exact ⟨hargs, hfit, hblock, htypes.knownTypes,
    (runTool_uniforms _ m hargs hfit).2.1 litBlock hblock htypes.knownTypes⟩

end ShaderBuild

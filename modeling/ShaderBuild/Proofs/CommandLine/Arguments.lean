import ShaderBuild.CommandLine
import ShaderBuild.Proofs.Include.Resolver
import ShaderBuild.Proofs.Text.Utf8

/-! # The arguments that name a command

A command is named by its word and what it works on: a shader by its name, its directory and perhaps
a word for its kind, a compilation by two paths.  These are all the arguments that are read
(`Command.parse_eq_ok_iff`).  Paths are taken byte for byte, and no two lists of arguments name one
command unless they differ in how the kind is written, or whether it is (`Command.parse_exact`). -/

namespace ShaderBuild

/-- The same character, but for the case of an ASCII letter. -/
def SameButCase (c d : Char) : Prop :=
  c = d ∨ (c.isUpper ∧ d.toNat = c.toNat + 32) ∨ (d.isUpper ∧ c.toNat = d.toNat + 32)

namespace ShaderKind

/-- The words for a kind, in lower case. -/
def words : ShaderKind → List String
  | .vertex => ["vert", "vertex"]
  | .fragment => ["frag", "fragment"]

/-- The word is one of those for the kind, but for the case of its ASCII letters. -/
def IsWrittenAs (k : ShaderKind) (word : String) : Prop :=
  ∃ w ∈ k.words, List.Forall₂ SameButCase word.toList w.toList

/-- The arguments name a kind: it is written in one word, or left out if it is `vertex`. -/
inductive NamedBy : ShaderKind → List Bytes → Prop
  | omitted : NamedBy .vertex []
  | word {k : ShaderKind} {word : String} : k.IsWrittenAs word → NamedBy k [encode word]

end ShaderKind

/-- The arguments name a command. -/
inductive Command.NamedBy : Command → List Bytes → Prop
  | preprocess {name : String} {dir : Bytes} {kind : ShaderKind} {rest : List Bytes} :
      kind.NamedBy rest → NamedBy (.preprocess ⟨name, kind, ⟨dir⟩⟩)
        (encode "preprocess" :: encode name :: dir :: rest)
  | uniforms {name : String} {dir : Bytes} {kind : ShaderKind} {rest : List Bytes} :
      kind.NamedBy rest → NamedBy (.uniforms ⟨name, kind, ⟨dir⟩⟩)
        (encode "uniforms" :: encode name :: dir :: rest)
  | compile {source outputDir : Bytes} :
      NamedBy (.compile ⟨source⟩ ⟨outputDir⟩) [encode "compile", source, outputDir]

/-- The arguments are the same, but for those that name the kind of a shader. -/
def DifferInKind (args args' : List Bytes) : Prop :=
  args = args' ∨ ∃ (command name dir : Bytes) (kind : ShaderKind) (rest rest' : List Bytes),
    args = command :: name :: dir :: rest ∧ args' = command :: name :: dir :: rest' ∧
      kind.NamedBy rest ∧ kind.NamedBy rest'

/-! ### The case of letters -/

section
variable {c d : Char} {s t : String}

theorem isUpper_iff_val : c.isUpper = true ↔ 'A'.val ≤ c.val ∧ c.val ≤ 'Z'.val :=
  decide_eq_true_iff

theorem toLower_of_not_isUpper (h : c.isUpper = false) : c.toLower = c := by
  unfold Char.toLower
  rw [dif_neg]
  intro hrange
  rw [isUpper_iff_val.mpr hrange] at h
  cases h

theorem toNat_toLower_of_isUpper (h : c.isUpper = true) : c.toLower.toNat = c.toNat + 32 := by
  have hrange := isUpper_iff_val.mp h
  have hle : c.toNat ≤ 90 := hrange.2
  have hval : c.val.toNat = c.toNat := rfl
  unfold Char.toLower
  rw [dif_pos hrange, ← Char.toNat_val]
  dsimp only
  have hshift : 'a'.val - 'A'.val = 32 := rfl
  rw [hshift, UInt32.toNat_add, hval]
  change (c.toNat + 32) % 2 ^ 32 = c.toNat + 32
  omega

theorem sameButCase_iff (hd : d.isUpper = false) : SameButCase c d ↔ c.toLower = d := by
  unfold SameButCase
  cases hc : c.isUpper with
  | false => simp [hd, toLower_of_not_isUpper hc]
  | true =>
      rw [← Char.toNat_inj (c := c.toLower), toNat_toLower_of_isUpper hc]
      constructor
      · rintro (rfl | ⟨_, h⟩ | ⟨h, _⟩)
        · rw [hc] at hd
          cases hd
        · exact h.symm
        · rw [hd] at h
          cases h
      · exact fun h => .inr (.inl ⟨rfl, h.symm⟩)

/-- A text without upper case letters is the same as another but for their case exactly if it is
what that becomes in lower case. -/
theorem forall₂_sameButCase_iff (ht : ∀ d ∈ t.toList, d.isUpper = false) :
    List.Forall₂ SameButCase s.toList t.toList ↔
      String.ofList (s.toList.map Char.toLower) = t := by
  rw [← String.toList_inj, String.toList_ofList]
  generalize s.toList = cs
  generalize t.toList = ds at ht
  induction ds generalizing cs with
  | nil => cases cs <;> simp
  | cons d ds ih =>
      obtain ⟨hd, hds⟩ := List.forall_mem_cons.mp ht
      cases cs with
      | nil => simp
      | cons c cs =>
          rw [List.forall₂_cons, sameButCase_iff hd, ih cs hds, List.map_cons, List.cons.injEq]

end

/-! ### Kinds -/

namespace ShaderKind

variable {k : ShaderKind} {word : String}

theorem isUpper_of_mem_words {w : String} (h : w ∈ k.words) :
    ∀ d ∈ w.toList, d.isUpper = false := by
  have hall : ∀ w ∈ k.words, (w.toList.all fun d => !d.isUpper) = true := by
    cases k <;> decide
  simpa using hall w h

theorem isWrittenAs_iff : k.IsWrittenAs word ↔ ofWord? word = some k := by
  have hlower : k.IsWrittenAs word ↔ String.ofList (word.toList.map Char.toLower) ∈ k.words := by
    unfold IsWrittenAs
    constructor
    · rintro ⟨w, hw, h⟩
      rwa [(forall₂_sameButCase_iff (isUpper_of_mem_words hw)).mp h]
    · intro h
      exact ⟨_, h, (forall₂_sameButCase_iff (isUpper_of_mem_words h)).mpr rfl⟩
  rw [hlower, ofWord?]
  generalize String.ofList (word.toList.map Char.toLower) = w
  constructor
  · intro h
    cases k with
    | vertex =>
        simp only [words, List.mem_cons, List.not_mem_nil, or_false] at h
        obtain rfl | rfl := h <;> rfl
    | fragment =>
        simp only [words, List.mem_cons, List.not_mem_nil, or_false] at h
        obtain rfl | rfl := h <;> rfl
  · intro h
    split at h <;> cases h <;> simp [words]

/-- A kind is written as its extension. -/
theorem isWrittenAs_extension (k : ShaderKind) : k.IsWrittenAs k.extension := by
  rw [isWrittenAs_iff]
  cases k <;> decide +kernel

theorem namedBy_nil_iff : k.NamedBy [] ↔ k = .vertex := by
  constructor
  · rintro ⟨⟩
    rfl
  · rintro rfl
    exact .omitted

theorem namedBy_singleton_iff {bs : Bytes} :
    k.NamedBy [bs] ↔ ∃ word, bs = encode word ∧ k.IsWrittenAs word := by
  constructor
  · rintro ⟨⟩
    next word h => exact ⟨word, rfl, h⟩
  · rintro ⟨word, rfl, h⟩
    exact .word h

theorem not_namedBy_cons_cons (bs bs' : Bytes) (rest : List Bytes) :
    ¬ k.NamedBy (bs :: bs' :: rest) := by
  rintro ⟨⟩

end ShaderKind

/-! ### Commands -/

namespace Command

variable {what : String} {bs : Bytes} {args args' : List Bytes} {s : Shader} {c : Command}

theorem textArg_eq_ok_iff {t : String} : textArg what bs = .ok t ↔ bs = encode t := by
  rw [textArg, ← decode?_eq_some_iff]
  cases decode? bs <;> simp

theorem parseShader_two_eq_ok_iff {name dir : Bytes} : parseShader [name, dir] = .ok s ↔
    name = encode s.name ∧ dir = s.baseDir.bytes ∧ s.kind = .vertex := by
  obtain ⟨text, kind, ⟨bytes⟩⟩ := s
  simp only [parseShader, bind, bind_eq_ok_iff, textArg_eq_ok_iff]
  constructor
  · rintro ⟨t, ht, h⟩
    cases h
    exact ⟨ht, rfl, rfl⟩
  · rintro ⟨hname, rfl, rfl⟩
    exact ⟨text, hname, rfl⟩

theorem parseShader_three_eq_ok_iff {name dir kind : Bytes} :
    parseShader [name, dir, kind] = .ok s ↔ name = encode s.name ∧ dir = s.baseDir.bytes ∧
      ∃ word, kind = encode word ∧ s.kind.IsWrittenAs word := by
  obtain ⟨text, k, ⟨bytes⟩⟩ := s
  simp only [parseShader, bind, bind_eq_ok_iff, textArg_eq_ok_iff, ShaderKind.isWrittenAs_iff]
  constructor
  · rintro ⟨word, hword, h⟩
    split at h
    · cases h
    · next hk =>
        obtain ⟨t, ht, h⟩ := bind_eq_ok_iff.mp h
        cases h
        exact ⟨textArg_eq_ok_iff.mp ht, rfl, word, hword, hk⟩
  · rintro ⟨hname, rfl, word, hword, hk⟩
    refine ⟨word, hword, ?_⟩
    rw [hk]
    exact bind_eq_ok_iff.mpr ⟨text, textArg_eq_ok_iff.mpr hname, rfl⟩

/-- The arguments behind the word for a command name a shader by its name, its directory and its
kind. -/
theorem parseShader_eq_ok_iff : parseShader args = .ok s ↔
    ∃ rest, args = encode s.name :: s.baseDir.bytes :: rest ∧ s.kind.NamedBy rest := by
  match args with
  | [] => simp [parseShader]
  | [_] => simp [parseShader]
  | [name, dir] =>
      rw [parseShader_two_eq_ok_iff]
      constructor
      · rintro ⟨rfl, rfl, hk⟩
        exact ⟨[], rfl, ShaderKind.namedBy_nil_iff.mpr hk⟩
      · rintro ⟨rest, h, hk⟩
        cases h
        exact ⟨rfl, rfl, ShaderKind.namedBy_nil_iff.mp hk⟩
  | [name, dir, kind] =>
      rw [parseShader_three_eq_ok_iff]
      constructor
      · rintro ⟨rfl, rfl, hk⟩
        exact ⟨[kind], rfl, ShaderKind.namedBy_singleton_iff.mpr hk⟩
      · rintro ⟨rest, h, hk⟩
        cases h
        exact ⟨rfl, rfl, ShaderKind.namedBy_singleton_iff.mp hk⟩
  | _ :: _ :: _ :: _ :: _ =>
      simp only [parseShader, reduceCtorEq, false_iff]
      rintro ⟨rest, h, hk⟩
      cases h
      exact ShaderKind.not_namedBy_cons_cons _ _ _ hk

theorem parse_eq_ok_iff : parse args = .ok c ↔ c.NamedBy args := by
  cases args with
  | nil =>
      simp only [parse, reduceCtorEq, false_iff]
      rintro ⟨⟩
  | cons command rest =>
      simp only [parse, bind, bind_eq_ok_iff, textArg_eq_ok_iff]
      constructor
      · rintro ⟨word, rfl, h⟩
        split at h
        · obtain ⟨⟨name, kind, ⟨dir⟩⟩, hs, h⟩ := bind_eq_ok_iff.mp h
          cases h
          obtain ⟨rest', rfl, hk⟩ := parseShader_eq_ok_iff.mp hs
          exact .preprocess hk
        · obtain ⟨⟨name, kind, ⟨dir⟩⟩, hs, h⟩ := bind_eq_ok_iff.mp h
          cases h
          obtain ⟨rest', rfl, hk⟩ := parseShader_eq_ok_iff.mp hs
          exact .uniforms hk
        · split at h
          · cases h
            exact .compile
          · cases h
        · cases h
      · intro h
        cases h with
        | preprocess hk =>
            refine ⟨_, rfl, ?_⟩
            exact bind_eq_ok_iff.mpr ⟨_, parseShader_eq_ok_iff.mpr ⟨_, rfl, hk⟩, rfl⟩
        | uniforms hk =>
            refine ⟨_, rfl, ?_⟩
            exact bind_eq_ok_iff.mpr ⟨_, parseShader_eq_ok_iff.mpr ⟨_, rfl, hk⟩, rfl⟩
        | compile => exact ⟨_, rfl, rfl⟩

theorem namedBy_toArgs (c : Command) : c.NamedBy c.toArgs := by
  cases c with
  | preprocess s => exact .preprocess (.word s.kind.isWrittenAs_extension)
  | uniforms s => exact .uniforms (.word s.kind.isWrittenAs_extension)
  | compile source outputDir => exact .compile

theorem NamedBy.differInKind (h : c.NamedBy args) (h' : c.NamedBy args') :
    DifferInKind args args' := by
  cases h with
  | preprocess hk =>
      cases h' with
      | preprocess hk' => exact .inr ⟨_, _, _, _, _, _, rfl, rfl, hk, hk'⟩
  | uniforms hk =>
      cases h' with
      | uniforms hk' => exact .inr ⟨_, _, _, _, _, _, rfl, rfl, hk, hk'⟩
  | compile =>
      cases h' with
      | compile => exact .inl rfl

/-- The arguments that are read are those that name a command, each command is read back from the
arguments it is printed as, and a command has no others but for its kind. -/
theorem parse_exact : (∀ args c, parse args = .ok c ↔ NamedBy c args) ∧
    (∀ c : Command, parse c.toArgs = .ok c) ∧
    ∀ args args' c, parse args = .ok c → parse args' = .ok c → DifferInKind args args' := by
  refine ⟨fun _ _ => parse_eq_ok_iff, fun c => parse_eq_ok_iff.mpr c.namedBy_toArgs, ?_⟩
  intro args args' c h h'
  exact (parse_eq_ok_iff.mp h).differInKind (parse_eq_ok_iff.mp h')

theorem parse_exact_upperCase :
    let c := uniforms ⟨"water", .vertex, ⟨[0xff]⟩⟩
    let args := [encode "uniforms", encode "water", [0xff]]
    parse args = .ok c ∧ parse (args ++ [encode "VERTEX"]) = .ok c ∧
      NamedBy c (args ++ [encode "VERTEX"]) ∧ DifferInKind args (args ++ [encode "VERTEX"]) := by
  intro c args
  have hshort : parse args = .ok c := by decide +kernel
  have hlong : parse (args ++ [encode "VERTEX"]) = .ok c := by decide +kernel
  exact ⟨hshort, hlong, (parse_exact.1 _ _).mp hlong, parse_exact.2.2 _ _ _ hshort hlong⟩

end Command

end ShaderBuild

import ShaderBuild.Proofs.FileName
import ShaderBuild.Proofs.Include.Resolver
import ShaderBuild.Proofs.Source.Outline

/-! # The form of include lines

A path is read from a line exactly if the line is the include token, one space, and the path between
double quotes, where the path is not empty and holds no space (`includePath?_eq_some_iff`).  An
outline is looser: it lists every line that begins with the token.  What it lists and no path is
read from is refused when it comes to be resolved, with the text of the line
(`includePath?_grammar`). -/

namespace ShaderBuild

/-- `IsIncludeOf t p`: the line `t` is the include token, one space, and the path `p` between double
quotes.  The path is not empty and holds no space; it may hold anything else, quotes too. -/
structure IsIncludeOf (t p : String) : Prop where
  eq : t = "//#INCLUDE \"" ++ p ++ "\""
  ne_empty : p ≠ ""
  no_space : ' ' ∉ p.toList

/-! ### Between quotes -/

theorem unquoted?_eq_some_iff {cs p : List Char} :
    unquoted? cs = some p ↔ cs = '"' :: (p ++ ['"']) ∧ p ≠ [] := by
  constructor
  · intro h
    unfold unquoted? at h
    split at h
    · next rest =>
        split at h
        · next hrest =>
            cases h
            obtain ⟨front, rfl⟩ := List.getLast?_eq_some_iff.mp hrest.1
            exact ⟨by rw [List.dropLast_concat], hrest.2⟩
        · cases h
    · cases h
  · rintro ⟨rfl, hne⟩
    simp [unquoted?, hne]

/-- The token and what follows it are the only pieces of a line that holds one space. -/
theorem pieces_token_iff {cs path : List Char} :
    pieces (· == ' ') cs = [includeToken.toList, path] ↔
      cs = includeToken.toList ++ ' ' :: path ∧ ' ' ∉ path := by
  have htoken : ' ' ∉ includeToken.toList := by decide
  rw [pieces_eq_cons_iff]
  simp [htoken]

theorem eq_include_iff {t p : String} :
    t = "//#INCLUDE \"" ++ p ++ "\"" ↔
      t.toList = includeToken.toList ++ ' ' :: '"' :: (p.toList ++ ['"']) := by
  have hopen : "//#INCLUDE \"".toList = includeToken.toList ++ [' ', '"'] := rfl
  have hclose : "\"".toList = ['"'] := rfl
  rw [← String.toList_inj, String.toList_append, String.toList_append, hopen, hclose]
  simp

/-- A path is read from the lines that include it. -/
theorem includePath?_eq_some_iff {t p : String} : includePath? t = some p ↔ IsIncludeOf t p := by
  constructor
  · intro h
    unfold includePath? at h
    split at h
    · next token path hpieces =>
        split at h
        · next htoken =>
            subst htoken
            obtain ⟨cs, hcs, rfl⟩ := Option.map_eq_some_iff.mp h
            obtain ⟨rfl, hne⟩ := unquoted?_eq_some_iff.mp hcs
            obtain ⟨ht, hspace⟩ := pieces_token_iff.mp hpieces
            refine ⟨eq_include_iff.mpr ?_, ?_, ?_⟩
            · rw [ht, String.toList_ofList]
            · exact fun he => hne (String.ofList_eq_empty_iff.mp he)
            · rw [String.toList_ofList]
              intro hmem
              exact hspace (by simp [hmem])
        · cases h
    · cases h
  · rintro ⟨ht, hne, hspace⟩
    have hne' : p.toList ≠ [] := fun he => hne (String.toList_eq_nil_iff.mp he)
    have hpieces : pieces (· == ' ') t.toList = [includeToken.toList, '"' :: (p.toList ++ ['"'])] :=
      pieces_token_iff.mpr ⟨eq_include_iff.mp ht, by simp [hspace]⟩
    have hpath : unquoted? ('"' :: (p.toList ++ ['"'])) = some p.toList :=
      unquoted?_eq_some_iff.mpr ⟨rfl, hne'⟩
    simp [includePath?, hpieces, hpath]

theorem includeLine_eq (p : String) : includeLine p = "//#INCLUDE \"" ++ p ++ "\"" :=
  rfl

/-! ### Listed and resolved -/

section
variable {f : SourceFile} {o : Outline} {i : ℕ} {t p : String}

theorem isMarkerLine_of_includePath? (h : includePath? t = some p) : isMarkerLine t = false := by
  by_contra hm
  rw [Bool.not_eq_false] at hm
  have hinc := isIncludeLine_of_includePath? h
  rw [isIncludeLine_of_isMarkerLine hm] at hinc
  cases hinc

/-- A line from which a path is read is no marker line. -/
theorem not_mem_markers_of_includePath? (hi : f.text? i = some t) (h : includePath? t = some p) :
    i ∉ f.linesWhere isMarkerLine := by
  intro hmem
  obtain ⟨u, hu, hm⟩ := SourceFile.mem_linesWhere.mp hmem
  rw [hi] at hu
  cases hu
  rw [isMarkerLine_of_includePath? h] at hm
  cases hm

theorem mem_includes_of_includePath? (ho : f.outline = .ok o) (hi : f.text? i = some t)
    (h : includePath? t = some p) : { line := i } ∈ o.includes := by
  obtain ⟨includes, marker⟩ := o
  obtain ⟨_, rfl⟩ := SourceFile.outline_eq_ok_iff.mp ho
  refine List.mem_map.mpr ⟨i, ?_, rfl⟩
  exact SourceFile.mem_linesWhere.mpr ⟨t, hi, isIncludeLine_of_includePath? h⟩

theorem marker_ne_of_includePath? (ho : f.outline = .ok o) (hi : f.text? i = some t)
    (h : includePath? t = some p) : o.marker ≠ some i := by
  obtain ⟨includes, marker⟩ := o
  rintro rfl
  apply not_mem_markers_of_includePath? hi h
  rw [(SourceFile.outline_eq_ok_iff.mp ho).1]
  exact List.mem_singleton_self i

theorem ne_of_outline_eq_error {first second : ℕ}
    (ho : f.outline = .error (.duplicateBlock ⟨f.path, second⟩ first)) (hi : f.text? i = some t)
    (h : includePath? t = some p) : first ≠ i ∧ second ≠ i := by
  obtain ⟨_, _, rest, hmarkers, he⟩ := SourceFile.outline_eq_error_iff.mp ho
  cases he
  have hno := not_mem_markers_of_includePath? hi h
  rw [hmarkers, List.mem_cons, List.mem_cons, not_or, not_or] at hno
  exact ⟨Ne.symm hno.1, Ne.symm hno.2.1⟩

/-- What an outline lists stands for a line, and is as yet without a target. -/
theorem exists_text?_of_mem_includes {d : Directive} (ho : f.outline = .ok o)
    (hd : d ∈ o.includes) : (∃ t, f.text? d.line = some t) ∧ d.target = none := by
  obtain ⟨includes, marker⟩ := o
  obtain ⟨_, rfl⟩ := SourceFile.outline_eq_ok_iff.mp ho
  obtain ⟨i, hmem, rfl⟩ := List.mem_map.mp hd
  obtain ⟨t, ht, _⟩ := SourceFile.mem_linesWhere.mp hmem
  exact ⟨⟨t, ht⟩, rfl⟩

namespace Resolver

/-- Whether or not its expansion succeeds, a directive that is resolved has the target that its line
names. -/
theorem target_of_resolve (disk : Disk) (r : Resolver) (f : SourceFile) (d : Directive) :
    (resolve disk r f d).directive.target = (f.target? d.line).or d.target := by
  rw [resolve_eq]
  cases ht : f.target? d.line with
  | none => rw [resolveWith_of_none ht, Option.none_or]
  | some target =>
      cases hx : expandAt disk r ⟨f.path, d.line⟩ target with
      | mk outcome r' =>
          cases outcome with
          | ok text => rw [resolveWith_of_ok ht hx, Option.some_or]
          | error e => rw [resolveWith_of_error ht hx, Option.some_or]

end Resolver

end

/-- Reading a path from a line.  It is read exactly from the lines that include it, one of which is
printed for it, and a line includes one path at most.  Every line that a path is read from is listed
by an outline, and taken for a marker by none.  Of the lines that are listed those that include a
path pass it on when they are resolved, and the others are refused with their text. -/
theorem includePath?_grammar (f : SourceFile) :
    (∀ t p, includePath? t = some p ↔ IsIncludeOf t p) ∧
    (∀ p, p ≠ "" → ' ' ∉ p.toList → includePath? (includeLine p) = some p) ∧
    (∀ t p q, IsIncludeOf t p → IsIncludeOf t q → p = q) ∧
    (∀ i t p, f.text? i = some t → includePath? t = some p →
      (∀ o, f.outline = .ok o → { line := i } ∈ o.includes ∧ o.marker ≠ some i) ∧
      ∀ first second, f.outline = .error (.duplicateBlock ⟨f.path, second⟩ first) →
        first ≠ i ∧ second ≠ i) ∧
    ∀ o, f.outline = .ok o → ∀ d ∈ o.includes, ∃ t, f.text? d.line = some t ∧
      ∀ (disk : Disk) (r : Resolver),
        (∀ p, (Resolver.resolve disk r f d).directive.target = some p ↔ IsIncludeOf t p) ∧
        ((∀ p, ¬ IsIncludeOf t p) → Resolver.resolve disk r f d =
          ⟨.error (.malformedInclude ⟨f.path, d.line⟩ t), d, r⟩) := by
  refine ⟨fun t p => includePath?_eq_some_iff, ?_, ?_, ?_, ?_⟩
  · intro p hne hspace
    exact includePath?_eq_some_iff.mpr ⟨includeLine_eq p, hne, hspace⟩
  · intro t p q hp hq
    rw [← includePath?_eq_some_iff] at hp hq
    exact Option.some.inj (hp.symm.trans hq)
  · intro i t p hi hp
    exact ⟨fun o ho => ⟨mem_includes_of_includePath? ho hi hp, marker_ne_of_includePath? ho hi hp⟩,
      fun first second ho => ne_of_outline_eq_error ho hi hp⟩
  · intro o ho d hd
    obtain ⟨⟨t, ht⟩, hnone⟩ := exists_text?_of_mem_includes ho hd
    have htarget : f.target? d.line = includePath? t := by
      rw [SourceFile.target?, ht, Option.getD_some]
    refine ⟨t, ht, fun disk r => ⟨fun p => ?_, fun hno => ?_⟩⟩
    · rw [Resolver.target_of_resolve, hnone, Option.or_none, htarget, includePath?_eq_some_iff]
    · have hmalformed : f.target? d.line = none := by
        rw [htarget, Option.eq_none_iff_forall_ne_some]
        exact fun p hp => hno p (includePath?_eq_some_iff.mp hp)
      rw [Resolver.resolve_eq, Resolver.resolveWith_of_none hmalformed, ht, Option.getD_some]

/-- A file with a block marker, a line that includes a path, and one that does not for its second
space. -/
def spacedIncludes : SourceFile :=
  .ofText (.ofString "f") "UNIFORM_BLOCK\n//#INCLUDE \"a\"\tb\"\n//#INCLUDE  \"c\""

/-- A path may hold quotes and tabs.  A second space lets a line begin like an include that is
none. -/
theorem includePath?_grammar_secondSpace :
    IsIncludeOf "//#INCLUDE \"a\"\tb\"" "a\"\tb" ∧
    (∀ o, spacedIncludes.outline = .ok o → { line := 1 } ∈ o.includes ∧ o.marker ≠ some 1) ∧
    ∀ (disk : Disk) (r : Resolver),
      Resolver.resolve disk r spacedIncludes { line := 2 } =
        ⟨.error (.malformedInclude ⟨.ofString "f", 2⟩ "//#INCLUDE  \"c\""), { line := 2 }, r⟩ := by
  obtain ⟨hread, _, _, hlisted, hresolved⟩ := includePath?_grammar spacedIncludes
  have hpath : includePath? "//#INCLUDE \"a\"\tb\"" = some "a\"\tb" := by decide
  have hline : spacedIncludes.text? 1 = some "//#INCLUDE \"a\"\tb\"" := by decide +kernel
  have houtline : spacedIncludes.outline = .ok ⟨[{ line := 1 }, { line := 2 }], some 0⟩ := by
    decide +kernel
  refine ⟨(hread _ _).mp hpath, (hlisted 1 _ _ hline hpath).1, fun disk r => ?_⟩
  obtain ⟨t, ht, hall⟩ := hresolved _ houtline { line := 2 } (by simp)
  have hlast : spacedIncludes.text? 2 = some "//#INCLUDE  \"c\"" := by decide +kernel
  rw [hlast] at ht
  cases ht
  apply (hall disk r).2
  intro p hp
  have hnone : includePath? "//#INCLUDE  \"c\"" = none := by decide
  rw [← hread, hnone] at hp
  cases hp

end ShaderBuild

import ShaderBuild.Proofs.Include.Unfolding
import ShaderBuild.Proofs.Source.Lines

/-! # Expanding in another context

A resolver that looks up under the same base directory, is expanding no other files and has at least
as much depth left (`Resolver.Eases`) expands every target that another one expands, and to the same
text (`expandAt_of_eases`).  The directive that names the target does not matter.

Successful expansions are unfoldings, so the text depends on the lines of the file only.  On a disk
on which paths with one canonical path read alike (`Disk.Consistent`), it is the text of the file
whatever path leads there, and whatever else is being expanded; a pass over that file alone gives it
too (`expandAt_context`). -/

namespace ShaderBuild

/-- Paths with one canonical path read alike, as far as they can be read. -/
def Disk.Consistent (disk : Disk) : Prop :=
  ∀ p q c s t, disk.canonical p = .ok c → disk.canonical q = .ok c → disk.readText p = .ok s →
    disk.readText q = .ok t → s = t

/-- A disk is consistent if reading a path gives what its canonical path holds. -/
theorem Disk.consistent_of_readText_canonical {disk : Disk}
    (h : ∀ p c, disk.canonical p = .ok c → disk.readText p = disk.readText c) :
    disk.Consistent := by
  intro p q c s t hp hq hs ht
  rw [h p c hp] at hs
  rw [h q c hq, hs] at ht
  exact Except.ok.inj ht

/-- Two files with one canonical path have the same lines. -/
theorem Disk.Consistent.lines_eq {disk : Disk} (hdisk : disk.Consistent) {p q c : Path}
    {f g : SourceFile} (hp : disk.canonical p = .ok c) (hq : disk.canonical q = .ok c)
    (hf : SourceFile.load disk p = .ok f) (hg : SourceFile.load disk q = .ok g) :
    f.lines = g.lines := by
  obtain ⟨s, hs, rfl⟩ := SourceFile.load_eq_ok_iff.mp hf
  obtain ⟨t, ht, rfl⟩ := SourceFile.load_eq_ok_iff.mp hg
  rw [hdisk p q c s t hp hq hs ht]
  rfl

/-! ### Files with the same lines -/

namespace SourceFile

variable {f g : SourceFile}

theorem target?_congr (h : g.lines = f.lines) (i : ℕ) : g.target? i = f.target? i := by
  simp only [target?, text?, line?, h]

theorem segments_congr (h : g.lines = f.lines) (ds : List Directive) :
    g.segments ds = f.segments ds := by
  simp only [segments, h]

theorem outline_congr (h : g.lines = f.lines) {ds : List Directive} {marker : Option ℕ}
    (ho : f.outline = .ok ⟨ds, marker⟩) : g.outline = .ok ⟨ds, marker⟩ := by
  rw [outline_eq_ok_iff] at ho ⊢
  simpa only [linesWhere, h] using ho

end SourceFile

namespace Resolver

variable {disk : Disk} {r r' : Resolver} {file file' : SourceFile}

/-- The resolver `r'` looks up under the base directory of `r`, is expanding no file that `r` is
not, and may go at least as deep from where it is. -/
structure Eases (r r' : Resolver) : Prop where
  baseDir_eq : r'.baseDir = r.baseDir
  active_sub : ∀ p ∈ r'.active, ∃ q ∈ r.active, p.same q = true
  depth_le : r'.active.length + r.maxDepth ≤ r.active.length + r'.maxDepth

theorem Eases.refl (r : Resolver) : Eases r r :=
  ⟨rfl, fun p hp => ⟨p, hp, p.same_self⟩, Nat.le_refl _⟩

theorem Eases.enter (h : Eases r r') (p : Path) : Eases (r.enter p) (r'.enter p) where
  baseDir_eq := h.baseDir_eq
  active_sub := by
    intro q hq
    rw [enter_active, List.mem_append] at hq
    rcases hq with hq | hq
    · obtain ⟨q', hq', hsame⟩ := h.active_sub q hq
      exact ⟨q', List.mem_append_left _ hq', hsame⟩
    · obtain rfl := List.mem_singleton.mp hq
      exact ⟨q, List.mem_append_right _ hq, q.same_self⟩
  depth_le := by
    have hd := h.depth_le
    simp only [enter_active, enter_maxDepth, List.length_append, List.length_singleton]
    omega

/-- What opens in one context opens in an easier one. -/
theorem openTarget_of_eases (h : Eases r r') {site : Site} {target : String} {known : Path}
    {inner : SourceFile} {ds : List Directive}
    (ho : openTarget disk r site target = .ok (known, inner, ds)) (site' : Site) :
    openTarget disk r' site' target = .ok (known, inner, ds) := by
  rw [openTarget_eq_ok_iff] at ho ⊢
  obtain ⟨hd, hc, hs, hf, ho⟩ := ho
  rw [h.baseDir_eq]
  refine ⟨?_, hc, ?_, hf, ho⟩
  · have := h.depth_le
    omega
  · intro p hp
    obtain ⟨q, hq, hsame⟩ := h.active_sub p hp
    rw [Path.same_congr hsame]
    exact hs q hq

/-- Directives that are filled in one context are filled alike in another one in which every target
expands to the same text. -/
theorem Fills.transfer {x : Expander} {d d' : Directive}
    (hx : ∀ site site' target text, (x r site target).1 = .ok text →
      (x r' site' target).1 = .ok text)
    (hl : file'.lines = file.lines) (h : Fills x r file d d') : Fills x r' file' d d' := by
  cases h with
  | mk ht htext =>
      rw [← SourceFile.target?_congr hl] at ht
      exact .mk ht (hx _ _ _ _ htext)

/-- The directives of a file that resolve in one context resolve alike, and the same text is
assembled, for a file with the same lines in another context in which every target expands to the
same text. -/
theorem assemble_of_transfer {ds : List Directive} {text : String}
    (hx : ∀ site site' target text, (expandAt disk r site target).1 = .ok text →
      (expandAt disk r' site' target).1 = .ok text)
    (hl : file'.lines = file.lines) (hr : (resolveEach (expandAt disk) file r ds).outcome = .ok ())
    (hs : file.assemble (resolveEach (expandAt disk) file r ds).directives = .ok text) :
    (resolveEach (expandAt disk) file' r' ds).outcome = .ok () ∧
      file'.assemble (resolveEach (expandAt disk) file' r' ds).directives = .ok text := by
  have hfills := forall₂_fills (restores_expandAt disk) hr
  have hfills' := hfills.imp fun _ _ h => h.transfer hx hl
  rw [resolveEach_of_fills (restores_expandAt disk) hfills']
  refine ⟨rfl, ?_⟩
  rw [assemble_of_fills hfills] at hs
  rw [assemble_of_fills hfills', SourceFile.segments_congr hl, hs]

/-- What expands in one context expands to the same text in an easier one, whichever directive names
it. -/
theorem expandAt_of_eases (disk : Disk) (r : Resolver) :
    ∀ r', Eases r r' → ∀ site site' target text, (expandAt disk r site target).1 = .ok text →
      (expandAt disk r' site' target).1 = .ok text := by
  induction r using enter_induction with
  | step r ih =>
      intro r' he site site' target text h
      obtain ⟨known, inner, ds, ho, hr, hs⟩ := expandAt_eq_ok_iff.mp h
      have hd := (openTarget_eq_ok_iff.mp ho).1
      have hin := ih hd known (r'.enter known) (he.enter known)
      obtain ⟨hr', hs'⟩ := assemble_of_transfer hin rfl hr hs
      exact expandAt_eq_ok_iff.mpr ⟨known, inner, ds, openTarget_of_eases he ho site', hr', hs'⟩

/-- The directive that names a target has no part in whether the target expands, and to what. -/
theorem expandAt_eq_ok_congr (disk : Disk) (r : Resolver) (site site' : Site)
    (target text : String) :
    (expandAt disk r site target).1 = .ok text ↔ (expandAt disk r site' target).1 = .ok text :=
  ⟨expandAt_of_eases disk r r (.refl r) site site' target text,
    expandAt_of_eases disk r r (.refl r) site' site target text⟩

/-- Where a file was read from has no part in what becomes of its directives. -/
theorem resolve_congr (disk : Disk) (r : Resolver) (hl : file'.lines = file.lines) (d : Directive) :
    (resolve disk r file' d).directive = (resolve disk r file d).directive ∧
      ((resolve disk r file' d).outcome = .ok () ↔ (resolve disk r file d).outcome = .ok ()) := by
  rw [resolve_eq, resolve_eq]
  have htarget := SourceFile.target?_congr hl d.line
  cases ht : file.target? d.line with
  | none => simp [resolveWith_of_none ht, resolveWith_of_none (htarget.trans ht)]
  | some target =>
      have hcongr := expandAt_eq_ok_congr disk r ⟨file.path, d.line⟩ ⟨file'.path, d.line⟩ target
      cases hx : expandAt disk r ⟨file.path, d.line⟩ target with
      | mk outcome s =>
          cases hx' : expandAt disk r ⟨file'.path, d.line⟩ target with
          | mk outcome' s' =>
              rw [hx, hx'] at hcongr
              cases outcome with
              | ok text =>
                  obtain rfl : outcome' = .ok text := (hcongr text).mp rfl
                  simp [resolveWith_of_ok ht hx, resolveWith_of_ok (htarget.trans ht) hx']
              | error e =>
                  cases outcome' with
                  | ok text => cases (hcongr text).mpr rfl
                  | error e' =>
                      simp [resolveWith_of_error ht hx,
                        resolveWith_of_error (htarget.trans ht) hx']

/-- The text of an expansion is the unfolding of the file that the target leads to. -/
theorem exists_unfolds_of_expandAt {site : Site} {target text : String}
    (h : (expandAt disk r site target).1 = .ok text) :
    ∃ inner ls, SourceFile.load disk (r.baseDir.join (.ofString target)) = .ok inner ∧
      Unfolds disk r.baseDir inner.texts ls ∧ text = "\n".intercalate ls := by
  obtain ⟨known, inner, ds, ho, hr, hs⟩ := expandAt_eq_ok_iff.mp h
  obtain ⟨_, _, _, hf, ho'⟩ := openTarget_eq_ok_iff.mp ho
  obtain ⟨ls, hls, hjoin⟩ := exists_unfolds_of_resolved disk (r.enter known) inner ds none ho' hr
  rw [assemble_of_fills (forall₂_fills (restores_expandAt disk) hr), hjoin] at hs
  exact ⟨inner, ls, hf, hls, (Except.ok.inj hs).symm⟩

end Resolver

open Resolver

section
variable {disk : Disk} {r : Resolver} {site : Site} {target text : String}

/-- Expansions of targets with one canonical path agree. -/
theorem eq_of_expandAt_of_canonical_eq (hdisk : disk.Consistent) {r' : Resolver} {site' : Site}
    {target' text' : String} {known : Path} (h : (expandAt disk r site target).1 = .ok text)
    (h' : (expandAt disk r' site' target').1 = .ok text') (hbase : r'.baseDir = r.baseDir)
    (hc : disk.canonical (r.baseDir.join (.ofString target)) = .ok known)
    (hc' : disk.canonical (r.baseDir.join (.ofString target')) = .ok known) : text' = text := by
  obtain ⟨inner, ls, hf, hls, rfl⟩ := exists_unfolds_of_expandAt h
  obtain ⟨inner', ls', hf', hls', rfl⟩ := exists_unfolds_of_expandAt h'
  rw [hbase] at hf' hls'
  rw [SourceFile.lines_eq_iff_texts_eq.mp (hdisk.lines_eq hc' hc hf' hf)] at hls'
  rw [hls'.unique hls]

/-- A file that expands where it is included is flattened to the same text on its own. -/
theorem preprocessFile_of_expandAt (hdisk : disk.Consistent) {p known : Path} {file : SourceFile}
    (h : (expandAt disk r site target).1 = .ok text)
    (hc : disk.canonical (r.baseDir.join (.ofString target)) = .ok known)
    (hp : disk.canonical p = .ok known) (hf : SourceFile.load disk p = .ok file) :
    preprocessFile disk r.baseDir r.maxDepth file = .ok ⟨text, none⟩ := by
  obtain ⟨known', inner, ds, ho, hr, hs⟩ := expandAt_eq_ok_iff.mp h
  obtain ⟨hd, hc', _, hf', ho'⟩ := openTarget_eq_ok_iff.mp ho
  rw [hc] at hc'
  cases hc'
  have hl : file.lines = inner.lines := hdisk.lines_eq hp hc hf hf'
  have hid : identity disk file.path = known := by
    obtain ⟨_, _, rfl⟩ := SourceFile.load_eq_ok_iff.mp hf
    simp only [identity, SourceFile.ofText, hp]
  have he : Eases (r.enter known) ⟨r.baseDir, r.maxDepth, [known]⟩ := by
    refine ⟨rfl, ?_, ?_⟩
    · intro q hq
      obtain rfl := List.mem_singleton.mp hq
      exact ⟨q, by simp, q.same_self⟩
    · simp
  obtain ⟨hr', hs'⟩ := assemble_of_transfer (expandAt_of_eases disk _ _ he) hl hr hs
  rw [preprocessFile_eq_ok_iff, hid]
  exact ⟨ds, none, SourceFile.outline_congr hl ho', rfl, hr', hs'⟩

/-- What a target expands to does not depend on where it is included.  It expands to the same text
with fewer files being expanded, whichever directive names it; every target with its canonical path
expands to that text or not at all; and the text is the source of a pass over the file alone. -/
theorem expandAt_context (hdisk : disk.Consistent)
    (h : (expandAt disk r site target).1 = .ok text) :
    (∀ r' site', r'.baseDir = r.baseDir → r'.maxDepth = r.maxDepth →
      (∀ p ∈ r'.active, ∃ q ∈ r.active, p.same q = true) →
      r'.active.length ≤ r.active.length → (expandAt disk r' site' target).1 = .ok text) ∧
    ∃ known, disk.canonical (r.baseDir.join (.ofString target)) = .ok known ∧
      (∀ r' site' target' text', r'.baseDir = r.baseDir →
        disk.canonical (r.baseDir.join (.ofString target')) = .ok known →
        (expandAt disk r' site' target').1 = .ok text' → text' = text) ∧
      (∃ file, SourceFile.load disk (r.baseDir.join (.ofString target)) = .ok file) ∧
      ∀ p file, disk.canonical p = .ok known → SourceFile.load disk p = .ok file →
        preprocessFile disk r.baseDir r.maxDepth file = .ok ⟨text, none⟩ := by
  obtain ⟨known, inner, _, ho, _, _⟩ := expandAt_eq_ok_iff.mp h
  obtain ⟨_, hc, _, hf, _⟩ := openTarget_eq_ok_iff.mp ho
  refine ⟨?_, known, hc, ?_, ⟨inner, hf⟩, ?_⟩
  · intro r' site' hbase hmax hsub hlen
    have he : Eases r r' := ⟨hbase, hsub, by omega⟩
    exact expandAt_of_eases disk r r' he site site' target text h
  · intro r' site' target' text' hbase hc' h'
    exact eq_of_expandAt_of_canonical_eq hdisk h h' hbase hc hc'
  · intro p file hp hload
    exact preprocessFile_of_expandAt hdisk h hc hp hload

end

/-- A disk with a file `b` that includes `c`, and a link `l` to `b`. -/
def linkedPair : Disk where
  canonical p := if p.same (.ofString "l") then .ok (.ofString "b")
    else (Disk.ofTexts [("b", "//#INCLUDE \"c\"\nY"), ("c", "Z")]).canonical p
  readText p := if p.same (.ofString "l") then .ok "//#INCLUDE \"c\"\nY"
    else (Disk.ofTexts [("b", "//#INCLUDE \"c\"\nY"), ("c", "Z")]).readText p

theorem consistent_linkedPair : linkedPair.Consistent := by
  apply Disk.consistent_of_readText_canonical
  intro p c hc
  simp only [linkedPair, Disk.ofTexts] at hc
  split_ifs at hc with hl hany
  · cases hc
    rw [linkedPair]
    simp only [if_pos hl]
    decide +kernel
  · cases hc
    rfl

/-- What is being expanded in two files expands to the same text in one of them, on its own, and by
a link to it. -/
theorem expandAt_context_linkedPair :
    (expandAt linkedPair ⟨⟨[]⟩, 3, [.ofString "a", .ofString "x"]⟩ ⟨.ofString "x", 0⟩ "b").1 =
      .ok "Z\nY" ∧
    (expandAt linkedPair ⟨⟨[]⟩, 3, [.ofString "x"]⟩ ⟨.ofString "y", 7⟩ "b").1 = .ok "Z\nY" ∧
    (∀ text', (expandAt linkedPair ⟨⟨[]⟩, 5, []⟩ ⟨.ofString "y", 7⟩ "l").1 = .ok text' →
      text' = "Z\nY") ∧
    preprocessFile linkedPair ⟨[]⟩ 3 (.ofTexts (.ofString "l") ["//#INCLUDE \"c\"", "Y"]) =
      .ok ⟨"Z\nY", none⟩ := by
  have h : (expandAt linkedPair ⟨⟨[]⟩, 3, [.ofString "a", .ofString "x"]⟩
      ⟨.ofString "x", 0⟩ "b").1 = .ok "Z\nY" := by
    decide +kernel
  obtain ⟨hfewer, known, hc, hlink, _, halone⟩ := expandAt_context consistent_linkedPair h
  have hknown :
      linkedPair.canonical ((⟨[]⟩ : Path).join (.ofString "b")) = .ok (.ofString "b") := by
    decide +kernel
  rw [hknown] at hc
  cases hc
  refine ⟨h, ?_, ?_, ?_⟩
  · exact hfewer _ _ rfl rfl (by decide +kernel) (by decide)
  · intro text' h'
    exact hlink ⟨⟨[]⟩, 5, []⟩ _ "l" text' rfl (by decide +kernel) h'
  · exact halone (.ofString "l") _ (by decide +kernel) (by decide +kernel)

end ShaderBuild

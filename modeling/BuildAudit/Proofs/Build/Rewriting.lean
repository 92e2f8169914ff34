import BuildAudit.Proofs.Build.Listing
import BuildAudit.Proofs.Build.Written

/-!
# Bringing the build information up to date once more

Once the module with the build information is up to date, there is nothing left to do for the same
names, in whatever order they are given. What decides this is what is read of a file that was just
written: the text itself, unless it has carriage returns, which are read as line feeds. A text has
them just if a name has one, since names are put into the text as they are. So a name with a
carriage return makes every turn write the file anew, and all other names settle at once
(`settlesAtOnce_iff`).
-/

namespace BuildAudit

/-- Once the module has been brought up to date, doing it again for the same names changes no file
and nothing happens. -/
def SettlesAtOnce (root : PosixPath) (packages : List String) (session : Session) : Prop :=
  ∀ path later, writeBuildInfo root packages session = (.ok path, later) →
    ∀ again, again.Perm packages → writeBuildInfo root again later = (.ok path, later)

/-- The text of the module does not depend on the order in which the names are given. -/
theorem renderBuildInfo_perm {packages again : List String} (h : again.Perm packages)
    (version : String) : renderBuildInfo again version = renderBuildInfo packages version := by
  rw [renderBuildInfo_eq, renderBuildInfo_eq, packageListing, packageListing, sortNames_perm h]

/-- Names in another order are brought up to date alike. -/
theorem writeBuildInfo_perm {packages again : List String} (h : again.Perm packages)
    (root : PosixPath) : writeBuildInfo root again = writeBuildInfo root packages := by
  funext session
  rw [writeBuildInfo_eq, writeBuildInfo_eq, renderBuildInfo_perm h]

/-- The text has a carriage return just if a name has one. -/
theorem return_mem_renderBuildInfo_iff {packages : List String} :
    '\r' ∈ (renderBuildInfo packages version).toList ↔ ∃ name ∈ packages, '\r' ∈ name.toList := by
  have hbefore : '\r' ∉ beforeListing.toList := by decide +kernel
  have hafter : '\r' ∉ (afterListing version).toList := by decide +kernel
  have hlisting : '\r' ∈ (packageListing packages).toList ↔
      ∃ name ∈ sortNames packages, '\r' ∈ name.toList := by
    by_cases hnone : sortNames packages = []
    · rw [packageListing, hnone]
      simp
    · have hmark : '\r' ∉ itemMark.toList := by decide
      rw [packageListing_eq hnone]
      simp only [String.toList_append, String.toList_intercalate, List.mem_append,
        Text.mem_intercalate_iff hmark, List.mem_map]
      simp
  rw [renderBuildInfo_eq, String.toList_append, String.toList_append, List.mem_append,
    List.mem_append, hlisting]
  simp only [hbefore, hafter, false_or, or_false, sortNames, List.mem_mergeSort]

/-- The text is read back as it is just if no name has a carriage return. -/
theorem unifyLineEnds_renderBuildInfo_iff {packages : List String} :
    Text.unifyLineEnds (renderBuildInfo packages version).toList =
        (renderBuildInfo packages version).toList ↔
      ∀ name ∈ packages, '\r' ∉ name.toList := by
  rw [Text.unifyLineEnds_eq_self_iff, return_mem_renderBuildInfo_iff]
  simp only [not_exists, not_and]

section Again

variable {root path : PosixPath} {packages : List String} {session later : Session}

/-- A file that holds a text is up to date just if the text is read back as it is. -/
theorem isUpToDate_of_read {files : FileTree} {text : String}
    (h : files.read path = .ok (Text.Utf8.encode text)) :
    isUpToDate files path text = .ok (Text.unifyLineEnds text.toList == text.toList) := by
  have hpresent := FileTree.hasPath_of_read h
  have hfound : Text.Utf8.decode (Text.Utf8.encode text) = .ok text :=
    Text.Utf8.decode_eq_ok_iff.2 rfl
  simp only [isUpToDate, hpresent, Except.mapError, bind, Except.bind, if_true, holdsText, h,
    hfound]

/-- Without carriage returns in names the second turn finds the file up to date. -/
theorem writeBuildInfo_again (h : writeBuildInfo root packages session = (.ok path, later))
    (hnames : ∀ name ∈ packages, '\r' ∉ name.toList) :
    writeBuildInfo root packages later = (.ok path, later) := by
  have hsame := unifyLineEnds_renderBuildInfo_iff.2 hnames
  obtain ⟨rfl, ⟨rfl, hupToDate⟩ | ⟨-, written, hwrite, rfl⟩⟩ := writeBuildInfo_eq_ok_iff.1 h
  · exact writeBuildInfo_of_isUpToDate hupToDate
  · refine writeBuildInfo_of_isUpToDate ?_
    rw [Session.files_extend, isUpToDate_of_read (read_of_writeText hwrite), hsame,
      beq_self_eq_true]

/-- A text that was written to a file is written to it again with success. -/
theorem writeText_again {text : String} (h : writeText path text session = (.ok (), later))
    {next : Session} (hfiles : next.files = later.files) :
    writeText path text next = (.ok (), next.extend [.wrote path]) := by
  rw [writeText] at h
  split at h
  · cases h
  · next files hwritten =>
    cases h
    obtain rfl : files = next.files := hfiles.symm
    rw [writeText, FileTree.makeDirectory_write_of_write hwritten]
    rfl

/-- With a carriage return in a name the second turn writes the file again, with a record of it. -/
theorem writeBuildInfo_again_of_return
    (h : writeBuildInfo root packages session = (.ok path, later))
    (hnames : ∃ name ∈ packages, '\r' ∈ name.toList) :
    writeBuildInfo root packages later = (.ok path, later.extend
      [.wrote path, .logged { level := .debug, text := s!"Wrote {path.text}" }]) := by
  have hreturn := return_mem_renderBuildInfo_iff.2 hnames
  have hchanged : Text.unifyLineEnds (renderBuildInfo packages version).toList ≠
      (renderBuildInfo packages version).toList :=
    fun hsame => Text.unifyLineEnds_eq_self_iff.1 hsame hreturn
  obtain ⟨rfl, ⟨-, hupToDate⟩ | ⟨-, written, hwrite, rfl⟩⟩ := writeBuildInfo_eq_ok_iff.1 h
  · -- What is read of a file has no carriage returns, so no file was up to date.
    obtain ⟨found, -, hfound⟩ := isUpToDate_eq_ok_true_iff.1 hupToDate
    rw [← hfound] at hreturn
    exact absurd hreturn (Text.not_mem_unifyLineEnds _)
  · refine writeBuildInfo_eq_ok_iff.2 ⟨rfl, Or.inr ⟨?_, _, writeText_again hwrite rfl, ?_⟩⟩
    · rw [Session.files_extend, isUpToDate_of_read (read_of_writeText hwrite),
        beq_eq_false_iff_ne.2 hchanged]
    · exact (Session.extend_extend _ [_] [_]).symm

/-- Names do not settle at once if one of them has a carriage return. -/
theorem not_settlesAtOnce_of_return (h : writeBuildInfo root packages session = (.ok path, later))
    (hnames : ∃ name ∈ packages, '\r' ∈ name.toList) :
    ¬ SettlesAtOnce root packages session := by
  intro hsettles
  have hsecond := hsettles path later h packages (.refl _)
  -- The events of the second turn would have to be none.
  rw [writeBuildInfo_again_of_return h hnames, Prod.mk.injEq] at hsecond
  have hevents := congrArg (List.length ∘ Session.events) hsecond.2
  simp [Session.extend] at hevents

end Again

/-- Names settle at once just if none of them has a carriage return, or the module cannot be brought
up to date at all. -/
theorem settlesAtOnce_iff (root : PosixPath) (packages : List String) (session : Session) :
    SettlesAtOnce root packages session ↔
      ((∃ path later, writeBuildInfo root packages session = (.ok path, later)) →
        ∀ name ∈ packages, '\r' ∉ name.toList) := by
  constructor
  · rintro hsettles ⟨path, later, h⟩ name hname hreturn
    exact not_settlesAtOnce_of_return h ⟨name, hname, hreturn⟩ hsettles
  · intro hnames path later h again hagain
    rw [writeBuildInfo_perm hagain]
    exact writeBuildInfo_again h (hnames ⟨path, later, h⟩)

/-- A name with a carriage return in it is one that a workspace accepts. The second turn for it
writes the file again. -/
theorem not_settlesAtOnce_returning :
    ∃ workspace first, Workspace.ofConfig (Workspace.named ["a\rb"]) .here none = .ok workspace ∧
      workspace.packageNames = ["a\rb"] ∧
      writeBuildInfo .here ["a\rb"] .bare = (.ok (buildInfoFile .here), first) ∧
      writeBuildInfo .here ["a\rb"] first = (.ok (buildInfoFile .here), first.extend
        [.wrote (buildInfoFile .here),
          .logged { level := .debug, text := "Wrote .pedant/BuildInfo.purs" }]) ∧
      ¬ SettlesAtOnce .here ["a\rb"] .bare := by
  have hnames : (Workspace.ofConfig (Workspace.named ["a\rb"]) .here none).toOption.map
      Workspace.packageNames = some ["a\rb"] := by
    decide +kernel
  obtain ⟨workspace, hworkspace, hname⟩ := Option.map_eq_some_iff.1 hnames
  -- The file is written whatever its text is.
  obtain ⟨written, hwritten⟩ : ∃ written, writeText (buildInfoFile .here)
      (renderBuildInfo ["a\rb"] version) .bare = (.ok (), written) := ⟨_, rfl⟩
  have hfirst := writeBuildInfo_eq_ok_iff.2 ⟨rfl, Or.inr ⟨rfl, written, hwritten, rfl⟩⟩
  have hreturn : ∃ name ∈ ["a\rb"], '\r' ∈ name.toList := by decide
  exact ⟨workspace, _, toOption_eq_some_iff.1 hworkspace, hname, hfirst,
    writeBuildInfo_again_of_return hfirst hreturn, not_settlesAtOnce_of_return hfirst hreturn⟩

end BuildAudit

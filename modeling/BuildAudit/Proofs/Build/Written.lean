import BuildAudit.Build.Info
import BuildAudit.Proofs.FileTree
import BuildAudit.Proofs.Session
import BuildAudit.Proofs.Text.Utf8

/-!
# The file with the build information

Bringing the module with the build information up to date leaves its text in the file, whether it
was written or there already. But whether it was there is told from what is read of the file, in
which carriage returns are line feeds. So a file with the text but for its line ends is left as it
is, and that is the only exception (`leavesUpToDate_iff`).
-/

namespace BuildAudit

/-- The path of the module under a directory. -/
def buildInfoFile (root : PosixPath) : PosixPath :=
  root.join (.ofText buildInfoPath)

/-- Whether the file is up to date: something is there that holds the text, line ends apart. -/
def isUpToDate (files : FileTree) (path : PosixPath) (text : String) : Except Failure Bool := do
  if ← (files.hasPath path).mapError .file then holdsText files path text else pure false

/-- What is done once it is known whether the file is up to date. -/
def bringUpToDate (path : PosixPath) (text : String) (upToDate : Bool) : Action PosixPath :=
  if upToDate then pure path
  else do
    writeText path text
    Action.log .debug s!"Wrote {path.text}"
    pure path

/-- Whenever the module is brought up to date, the octets of its file are those of its text. -/
def LeavesUpToDate (root : PosixPath) (packages : List String) (session : Session) : Prop :=
  ∀ path later, writeBuildInfo root packages session = (.ok path, later) →
    later.files.read (buildInfoFile root) =
      .ok (Text.Utf8.encode (renderBuildInfo packages version))

/-- Between two trees the module has been brought up to date. -/
structure BringsUpToDate (root : PosixPath) (packages : List String) (files later : FileTree) :
    Prop where
  /-- The file holds the text of the module, line ends apart. -/
  holds : ∃ found : String, later.read (buildInfoFile root) = .ok (Text.Utf8.encode found) ∧
    Text.unifyLineEnds found.toList =
      Text.unifyLineEnds (renderBuildInfo packages version).toList
  /-- At every other place there is still what was there. -/
  elsewhere : ∀ place node, later.placeOf (buildInfoFile root) ≠ .ok place →
    files.node? place = some node → later.node? place = some node

/-- A file holds a text, line ends apart, just if what it has for octets are those of a text that
becomes that text once its line ends are unified. -/
theorem holdsText_eq_ok_true_iff {files : FileTree} {path : PosixPath} {text : String} :
    holdsText files path text = .ok true ↔
      ∃ found, files.read path = .ok (Text.Utf8.encode found) ∧
        Text.unifyLineEnds found.toList = text.toList := by
  rw [holdsText]
  constructor
  · intro h
    split at h
    · cases h
    · next content hread =>
      split at h
      · cases h
      · next found hfound =>
        rw [Text.Utf8.decode_eq_ok_iff] at hfound
        rw [Except.ok.injEq, beq_iff_eq] at h
        exact ⟨found, by rw [hread, hfound], h⟩
  · rintro ⟨found, hread, hsame⟩
    have hfound : Text.Utf8.decode (Text.Utf8.encode found) = .ok found :=
      Text.Utf8.decode_eq_ok_iff.2 rfl
    simp only [hread, hfound, hsame, beq_self_eq_true]

/-- A text is written after the directories around its file have been made. -/
theorem exists_write_of_writeText {path : PosixPath} {text : String} {session later : Session}
    (h : writeText path text session = (.ok (), later)) :
    ∃ made, session.files.makeDirectory path.parent = .ok made ∧
      made.write path (Text.Utf8.encode text) = .ok later.files := by
  rw [writeText] at h
  split at h
  · cases h
  · next files hwritten =>
    cases h
    exact bind_eq_ok_iff.1 hwritten

/-- What was written to a file is in the file. -/
theorem read_of_writeText {path : PosixPath} {text : String} {session later : Session}
    (h : writeText path text session = (.ok (), later)) :
    later.files.read path = .ok (Text.Utf8.encode text) := by
  obtain ⟨made, -, hwrite⟩ := exists_write_of_writeText h
  exact FileTree.read_of_write hwrite

/-- The module is written unless its file is up to date. -/
theorem writeBuildInfo_eq (root : PosixPath) (packages : List String) (session : Session) :
    writeBuildInfo root packages session =
      (Action.ofExcept (isUpToDate session.files (buildInfoFile root)
          (renderBuildInfo packages version)) >>=
        bringUpToDate (buildInfoFile root) (renderBuildInfo packages version)) session := by
  rw [writeBuildInfo, bind_of_ok (get_apply session), isUpToDate, buildInfoFile]
  -- The file is read only if there is one.
  rcases (session.files.hasPath (root.join (.ofText buildInfoPath))).mapError Failure.file
    with failure | present
  · rfl
  · cases present <;> rfl

/-- The file is up to date just if it holds the text, line ends apart. -/
theorem isUpToDate_eq_ok_true_iff {files : FileTree} {path : PosixPath} {text : String} :
    isUpToDate files path text = .ok true ↔
      ∃ found, files.read path = .ok (Text.Utf8.encode found) ∧
        Text.unifyLineEnds found.toList = text.toList := by
  rw [← holdsText_eq_ok_true_iff, isUpToDate, bind_eq_ok_iff]
  constructor
  · rintro ⟨present, -, hholds⟩
    cases present with
    | true => exact hholds
    | false => cases hholds
  · intro hholds
    obtain ⟨found, hread, -⟩ := holdsText_eq_ok_true_iff.1 hholds
    exact ⟨true, by rw [FileTree.hasPath_of_read hread]; rfl, hholds⟩

/-- A file that is up to date is left as it is. -/
theorem writeBuildInfo_of_isUpToDate {root : PosixPath} {packages : List String}
    {session : Session}
    (h : isUpToDate session.files (buildInfoFile root) (renderBuildInfo packages version) =
      .ok true) :
    writeBuildInfo root packages session = (.ok (buildInfoFile root), session) := by
  rw [writeBuildInfo_eq, h, bind_of_ok (Action.ofExcept_apply _ session)]
  rfl

/-- Bringing the module up to date ends with its path: the file was up to date and nothing happens,
or it was not and is written, of which there is a record. -/
theorem writeBuildInfo_eq_ok_iff {root path : PosixPath} {packages : List String}
    {session later : Session} :
    writeBuildInfo root packages session = (.ok path, later) ↔
      path = buildInfoFile root ∧
        ((later = session ∧ isUpToDate session.files (buildInfoFile root)
            (renderBuildInfo packages version) = .ok true) ∨
          (isUpToDate session.files (buildInfoFile root) (renderBuildInfo packages version) =
              .ok false ∧
            ∃ written, writeText (buildInfoFile root) (renderBuildInfo packages version) session =
                (.ok (), written) ∧
              later = written.extend
                [.logged { level := .debug, text := s!"Wrote {(buildInfoFile root).text}" }])) := by
  rw [writeBuildInfo_eq, bind_eq_ok]
  constructor
  · rintro ⟨upToDate, middle, hasked, hbrought⟩
    rw [Action.ofExcept_apply] at hasked
    obtain ⟨hknown, rfl⟩ := Prod.mk.inj hasked
    cases upToDate with
    | true =>
      cases hbrought
      exact ⟨rfl, Or.inl ⟨rfl, hknown⟩⟩
    | false =>
      obtain ⟨⟨⟩, written, hwrite, hlogged⟩ := bind_eq_ok.1 hbrought
      cases hlogged
      exact ⟨rfl, Or.inr ⟨hknown, written, hwrite, rfl⟩⟩
  · rintro ⟨rfl, ⟨rfl, hknown⟩ | ⟨hknown, written, hwrite, rfl⟩⟩
    · exact ⟨true, later, by rw [Action.ofExcept_apply, hknown], rfl⟩
    · refine ⟨false, session, by rw [Action.ofExcept_apply, hknown], ?_⟩
      exact bind_eq_ok.2 ⟨(), written, hwrite, rfl⟩

/-- Afterwards the file is as it was and was up to date, or its octets are those of the text. -/
theorem writeBuildInfo_cases {root path : PosixPath} {packages : List String}
    {session later : Session} (h : writeBuildInfo root packages session = (.ok path, later)) :
    (later = session ∧ isUpToDate session.files (buildInfoFile root)
        (renderBuildInfo packages version) = .ok true) ∨
      later.files.read (buildInfoFile root) =
        .ok (Text.Utf8.encode (renderBuildInfo packages version)) := by
  obtain ⟨-, hskipped | ⟨-, written, hwrite, rfl⟩⟩ := writeBuildInfo_eq_ok_iff.1 h
  · exact Or.inl hskipped
  · right
    -- What is logged afterwards leaves the files as they are.
    rw [Session.files_extend, read_of_writeText hwrite]

/-- Once the module has been brought up to date, its file holds its text, line ends apart, and
everything else is where it was. -/
theorem bringsUpToDate_of_writeBuildInfo {root path : PosixPath} {packages : List String}
    {session later : Session} (h : writeBuildInfo root packages session = (.ok path, later)) :
    BringsUpToDate root packages session.files later.files := by
  obtain ⟨-, ⟨rfl, hupToDate⟩ | ⟨-, written, hwrite, rfl⟩⟩ := writeBuildInfo_eq_ok_iff.1 h
  · obtain ⟨found, hread, hsame⟩ := isUpToDate_eq_ok_true_iff.1 hupToDate
    refine ⟨⟨found, hread, ?_⟩, fun _ _ _ hnode => hnode⟩
    -- The text itself has no carriage returns here, so unifying its line ends changes nothing.
    rw [← hsame, Text.unifyLineEnds_eq_self_iff.2 (Text.not_mem_unifyLineEnds found.toList)]
  · rw [Session.files_extend]
    refine ⟨⟨_, read_of_writeText hwrite, rfl⟩, fun place node hplace hnode => ?_⟩
    -- Only directories are added on the way, and only the file itself is replaced.
    obtain ⟨made, hmade, hwritten⟩ := exists_write_of_writeText hwrite
    rw [FileTree.node?_of_write hwritten hplace]
    exact FileTree.keepsNodes_makeAlong hmade place node hnode

/-- Bringing the module up to date leaves its text in the file unless the file had carriage returns
at the ends of lines and is otherwise up to date. -/
theorem leavesUpToDate_iff (root : PosixPath) (packages : List String) (session : Session) :
    LeavesUpToDate root packages session ↔
      ∀ found : String, session.files.read (buildInfoFile root) = .ok (Text.Utf8.encode found) →
        Text.unifyLineEnds found.toList = (renderBuildInfo packages version).toList →
          '\r' ∉ found.toList := by
  constructor
  · intro hleaves found hread hsame
    -- The file counts as up to date, so it is left with the octets that it has.
    have hskipped :=
      writeBuildInfo_of_isUpToDate (isUpToDate_eq_ok_true_iff.2 ⟨found, hread, hsame⟩)
    have hwhole := hleaves _ _ hskipped
    rw [hread, Except.ok.injEq] at hwhole
    rw [← Text.Utf8.encode_injective hwhole] at hsame
    exact Text.unifyLineEnds_eq_self_iff.1 hsame
  · intro hclean path later h
    rcases writeBuildInfo_cases h with ⟨rfl, hupToDate⟩ | hwritten
    · -- Without carriage returns what is read of the file is what is in it.
      obtain ⟨found, hread, hsame⟩ := isUpToDate_eq_ok_true_iff.1 hupToDate
      have hself := Text.unifyLineEnds_eq_self_iff.2 (hclean found hread hsame)
      rw [hread, String.toList_inj.1 (hself.symm.trans hsame)]
    · exact hwritten

/-- The text of the module for one package, with carriage returns at the ends of its lines. -/
def returned : String :=
  "-- @inline export packages always\r\n" ++ "module Pedant.Generated.BuildInfo where\r\n" ++
    "\r\n" ++ "packages :: Array String\r\n" ++ "packages =\r\n" ++ "  [ \"app\"\r\n" ++
    "  ]\r\n" ++ "\r\n" ++ "pedantVersion :: String\r\n" ++ "pedantVersion = \"0.3.0\"\r\n"

/-- A session in which the file has that text. -/
def carried : Session where
  files := {
    nodes := [([".pedant"], .directory),
      ([".pedant", "BuildInfo.purs"], .file (Text.Utf8.encode returned))]
    workingDirectory := [] }

/-- The file is left with its carriage returns. -/
theorem not_leavesUpToDate_carried :
    writeBuildInfo .here ["app"] carried = (.ok (buildInfoFile .here), carried) ∧
      carried.files.read (buildInfoFile .here) = .ok (Text.Utf8.encode returned) ∧
      ¬ LeavesUpToDate .here ["app"] carried := by
  have hread : carried.files.read (buildInfoFile .here) = .ok (Text.Utf8.encode returned) := by
    rfl
  have hlisting : packageListing ["app"] = "[ \"app\"\n  ]" := by
    have hsorted : sortNames ["app"] = ["app"] := List.mergeSort_singleton _
    rw [packageListing, hsorted]
    decide
  -- Reading the file makes its line ends those of the rendered text, so it is taken for current.
  have hsame : Text.unifyLineEnds returned.toList = (renderBuildInfo ["app"] version).toList := by
    unfold renderBuildInfo returned
    rw [hlisting]
    simp only [String.toList_append]
    decide +kernel
  have hreturn : '\r' ∈ returned.toList := by
    unfold returned
    simp only [String.toList_append, List.mem_append]
    decide +kernel
  have hskipped := writeBuildInfo_of_isUpToDate (isUpToDate_eq_ok_true_iff.2 ⟨_, hread, hsame⟩)
  refine ⟨hskipped, hread, fun hleaves => ?_⟩
  -- Its octets are still those of a text with carriage returns, which the rendered one has not.
  have hwhole := hleaves _ _ hskipped
  rw [hread, Except.ok.injEq] at hwhole
  rw [← Text.Utf8.encode_injective hwhole, Text.unifyLineEnds_eq_self_iff] at hsame
  exact hsame hreturn

end BuildAudit

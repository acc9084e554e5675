import ConfigVars.Proofs.Conclusion
import ConfigVars.Proofs.Encoding

/-!
# Files and streams with one text

A file is read with one kind of line end, and a stream of its text as it stands.  Where a carriage
return is always in front of a line feed (`ReturnsBeforeFeeds`), the two have lines that differ in
their ends only (`linesOf_unified`).  The reader takes the ends off, so the logical lines are the
same (`splitLogical_of_same`), and so is everything that comes of them
(`file_and_stream_read_alike`).
-/

namespace ConfigVars

open ConfigVars.Text Run

/-! ### Line ends -/

/-- Every carriage return is in front of a line feed. -/
def ReturnsBeforeFeeds (cs : List Char) : Prop :=
  ∀ front rest, cs = front ++ '\r' :: rest → rest.head? = some '\n'

theorem returnsBeforeFeeds_cons {c : Char} {rest : List Char} :
    ReturnsBeforeFeeds (c :: rest) ↔
      (c = '\r' → rest.head? = some '\n') ∧ ReturnsBeforeFeeds rest := by
  constructor
  · intro h
    refine ⟨?_, fun front behind hrest => h (c :: front) behind (congrArg (List.cons c) hrest)⟩
    rintro rfl
    exact h [] rest rfl
  · rintro ⟨hfirst, hrest⟩ front behind hsplit
    cases front with
    | nil =>
      obtain ⟨rfl, rfl⟩ := List.cons.inj hsplit
      exact hfirst rfl
    | cons _ front => exact hrest front behind (List.cons.inj hsplit).2

instance decidableReturnsBeforeFeeds : (cs : List Char) → Decidable (ReturnsBeforeFeeds cs)
  | [] => .isTrue fun front _ h => absurd h.symm (by simp)
  | _ :: rest =>
    have := decidableReturnsBeforeFeeds rest
    decidable_of_iff' _ returnsBeforeFeeds_cons

/-- A character that ends no line is not taken off. -/
theorem withoutEnd_cons {c : Char} (hr : c ≠ '\r') (hn : c ≠ '\n') (line : List Char) :
    withoutEnd (c :: line) = c :: withoutEnd line := by
  have hends : [c].dropWhile (fun c => c = '\r' || c = '\n') = [c] :=
    List.dropWhile_cons_of_neg (by simp [hr, hn])
  rw [withoutEnd, withoutEnd, List.reverse_cons, List.dropWhile_append, hends]
  split_ifs with hempty
  · rw [List.isEmpty_iff.mp hempty]
    rfl
  · exact List.reverse_concat

theorem map_withoutEnd_atFront {c : Char} (hr : c ≠ '\r') (hn : c ≠ '\n')
    (lines : List (List Char)) :
    (atFront c lines).map withoutEnd = atFront c (lines.map withoutEnd) := by
  cases lines with
  | nil => exact congrArg (fun line => [line]) (withoutEnd_cons hr hn [])
  | cons line rest => rw [atFront, List.map_cons, withoutEnd_cons hr hn, List.map_cons, atFront]

/-- **One kind of line end makes lines that differ in their ends only.** -/
theorem linesOf_unified {cs : List Char} (h : ReturnsBeforeFeeds cs) :
    (linesOf (unified cs)).map withoutEnd = (linesOf cs).map withoutEnd := by
  fun_induction unified cs with
  | case1 => rfl
  | case2 => cases h [] [] rfl
  | case3 rest ih =>
    -- the line that is read with a line feed only has a carriage return before it in the text
    have hrest := (returnsBeforeFeeds_cons.mp (returnsBeforeFeeds_cons.mp h).2).2
    have hwith : linesOf ('\r' :: '\n' :: rest) = ['\r', '\n'] :: linesOf rest := rfl
    have hwithout : linesOf ('\n' :: unified rest) = ['\n'] :: linesOf (unified rest) := rfl
    rw [hwith, hwithout, List.map_cons, List.map_cons, ih hrest]
    rfl
  | case4 c rest hc ih =>
    have hhead : some c = some '\n' := h [] (c :: rest) rfl
    exact absurd (Option.some.inj hhead) hc
  | case5 c rest hlast hfeed hother ih =>
    have hrest := (returnsBeforeFeeds_cons.mp h).2
    have hr : c ≠ '\r' := by
      rintro rfl
      cases rest with
      | nil => exact hlast rfl rfl
      | cons next more => exact hother next more rfl rfl
    rw [linesOf, linesOf]
    split_ifs with hn
    · rw [List.map_cons, List.map_cons, ih hrest]
    · rw [map_withoutEnd_atFront hr hn, map_withoutEnd_atFront hr hn, ih hrest]

/-! ### Logical lines -/

theorem withoutEnd_withoutEnd (raw : List Char) : withoutEnd (withoutEnd raw) = withoutEnd raw :=
  List.rdropWhile_idempotent _ raw

/-- The reader looks at lines without their ends. -/
theorem logicalFrom_withoutEnd (lines : List (List Char)) (number : Nat)
    (started : Option LogicalLine) :
    logicalFrom number started (lines.map withoutEnd) = logicalFrom number started lines := by
  induction lines generalizing number started with
  | nil => rfl
  | cons raw rest ih =>
    rw [List.map_cons, logicalFrom, logicalFrom, withoutEnd_withoutEnd]
    dsimp only
    rw [ih, ih]

/-- **Lines that differ in their ends only make the same logical lines.** -/
theorem splitLogical_of_same {lines lines' : List (List Char)}
    (h : lines.map withoutEnd = lines'.map withoutEnd) :
    splitLogical lines = splitLogical lines' := by
  rw [splitLogical, splitLogical, ← logicalFrom_withoutEnd lines, h, logicalFrom_withoutEnd]

/-! ### Readings -/

/-- A path leads to a file with a text. -/
structure FileTree.HoldsText (files : FileTree) (path text : String) : Prop where
  isPath : '\x00' ∉ path.toList
  opens : files.openFile path = .ok (Utf8.bytesOf text)

/-- A file with a text has the lines of the text with one kind of line end. -/
theorem FileTree.HoldsText.read {files : FileTree} {path text : String}
    (h : files.HoldsText path text) :
    (Source.path path).read files =
      .ok { lines := (linesOf (unified text.toList)).map String.ofList } := by
  have hpath : ¬ path.toList.contains '\x00' = true := by simpa using h.isPath
  rw [Source.read, if_neg hpath, h.opens]
  dsimp only
  rw [Source.ofBytes, Utf8.decode_bytesOf]

theorem map_toList_ofList (lines : List (List Char)) :
    (lines.map String.ofList).map String.toList = lines := by
  simp [Function.comp_def]

/-- A reading depends on the logical lines of what is read only. -/
theorem applyReading_of_same (call : Caller) (hook : Option Callable) (source : String)
    {lines lines' : List (List Char)} (h : splitLogical lines = splitLogical lines') :
    applyReading call hook source { lines := lines.map String.ofList } =
      applyReading call hook source { lines := lines'.map String.ofList } := by
  rw [applyReading, applyReading]
  dsimp only
  rw [map_toList_ofList, map_toList_ofList, h]

/-- **A file and a stream of its text are read alike.**  Where no hook reads files, let a path lead
to a file with a text in which every carriage return is in front of a line feed.  Then a reading of
the file ends just as one of a stream of the text that has the path for a name, whatever lines,
values and callables there are.  In a quiet registry without a hook for lines, it gives an outcome
unless one of the lines fails. -/
theorem file_and_stream_read_alike (depth : Nat) {w : World}
    (hw : Reachable (Callable.call depth) w) (hfile : w.registry.settings.fileParse = none)
    {path text : String} (hholds : w.files.HoldsText path text)
    (hreturns : ReturnsBeforeFeeds text.toList) :
    let call := Callable.call depth
    let stream := Source.text text (some path)
    (readSource call (.path path)).ends w = (readSource call stream).ends w ∧
      (w.registry.settings.lineParse = none → w.registry.Quiet call →
        Concludes w.registry (logicalLines (linesOf text.toList))
          ((readSource call stream).ends w).1) := by
  intro call stream
  have hstream : stream.read w.files =
      .ok { lines := (linesOf text.toList).map String.ofList } := rfl
  have hsame := splitLogical_of_same (linesOf_unified hreturns)
  constructor
  · rw [readSource_reads call hfile hholds.read, readSource_reads call hfile hstream,
      applyReading_of_same call _ _ hsame]
    rfl
  · intro hline hquiet
    have hconcludes := readSource_concludes hquiet hw.sound hfile hline hstream
    rw [map_toList_ofList] at hconcludes
    exact hconcludes

/-! ### A session with a file -/

/-- Files come from outside. -/
theorem Reachable.withFiles {call : Caller} {w : World} (h : Reachable call w) (files : FileTree) :
    Reachable call { w with files } :=
  h.outside rfl

/-- A session with a file. -/
def fileSession (path text : String) : World :=
  { recordingSession with files := ⟨[([path], .file (Utf8.bytesOf text))]⟩ }

theorem fileSession_registry (path text : String) :
    (fileSession path text).registry = recordingSession.registry := by
  dsimp only [fileSession]

/-- Reading a file whose lines end in both ways: one for `x` in two parts, one for no variable, an
empty one, and one for `x` that has no end. -/
theorem file_read_like_stream :
    let text := "x 5\\\r\n1\r\nnosuch 1\n\r\nx 7"
    let stream := Source.text text (some "vars")
    Reachable Caller.standard (fileSession "vars" text) ∧
      (fileSession "vars" text).registry.settings.fileParse = none ∧
      (fileSession "vars" text).files.HoldsText "vars" text ∧ ReturnsBeforeFeeds text.toList ∧
      (readSource Caller.standard (.path "vars")).ends (fileSession "vars" text) =
        (readSource Caller.standard stream).ends (fileSession "vars" text) ∧
      ∃ o, ((readSource Caller.standard stream).ends (fileSession "vars" text)).1 = .ok o := by
  intro text stream
  have hw : Reachable Caller.standard (fileSession "vars" text) :=
    recordingSession_reachable.withFiles _
  have hfile : (fileSession "vars" text).registry.settings.fileParse = none := by
    rw [fileSession_registry]
    exact recordingSession_unhooked.1
  have hholds : (fileSession "vars" text).files.HoldsText "vars" text :=
    ⟨by decide +kernel, by decide +kernel⟩
  have hreturns : ReturnsBeforeFeeds text.toList := by decide +kernel
  obtain ⟨hsame, hconcludes⟩ := file_and_stream_read_alike maxCallDepth hw hfile hholds hreturns
  rw [fileSession_registry] at hconcludes
  exact ⟨hw, hfile, hholds, hreturns, hsame,
    recordingSession_concludes (hconcludes recordingSession_unhooked.2)⟩

end ConfigVars

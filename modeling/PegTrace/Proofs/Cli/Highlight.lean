import PegTrace.Cli.Outcome
import PegTrace.Proofs.Search.Scan
import PegTrace.Proofs.Shorthand.Denotation
import PegTrace.Proofs.Text.Lines

/-!
# What a search shows

A search writes the lines in which there are matches, each with its number and with the matches in reverse video. Where
a line is cut is told from the matches (`cutsFrom`). Since they do not overlap and stay within the line (`Fits`), every
cut is one that can be made, and the stretches between the cuts are the whole line again. They are written character by
character as they stand, a match between the codes that turn reverse video on and off (`Shows`). So what a search
writes is the lines of the text, whatever the pattern (`execute_shows_matches`).
-/

namespace PegTrace.Cli

open Text

/-! ### Patterns in shorthand -/

/-- A compiled pattern gives an answer everywhere on a line. -/
lemma computes_of_compile {pattern : List Char} {p : Pattern Char} (h : Shorthand.compile pattern = .ok p)
    (line : Array Char) : ∃ r, (Grammar.matcher {} line p).Computes line.size r := by
  cases hparse : Shorthand.parse pattern with
  | error fault =>
    rw [Shorthand.compile, hparse] at h
    cases h
  | ok compound =>
    rw [Shorthand.compile, hparse] at h
    cases h
    exact ⟨_, (Shorthand.Element.group compound).computes_denote (Grammar.size_lt_budget {} line)⟩

/-! ### Cuts -/

/-- A stretch of a line, which may be a match. -/
structure Stretch where
  /-- Where it starts. -/
  start : Nat
  /-- Where it stops. -/
  stop : Nat
  /-- Whether it is a match. -/
  isMatch : Bool
deriving DecidableEq, Repr

/-- The piece of a line that a stretch cuts out. -/
def Stretch.piece (line : Array Char) (s : Stretch) : Piece :=
  ⟨slice line s.start s.stop, s.isMatch⟩

/-- The stretches that a line of the given size is cut into from `place` on. -/
def cutsFrom (size place : Nat) : List Found → List Stretch
  | [] => [⟨place, size, false⟩]
  | f :: later => ⟨place, f.start, false⟩ :: ⟨f.start, f.stop, true⟩ :: cutsFrom size f.stop later

/-- The matches stand one after the other from a place on, up to the size of the line. -/
inductive Fits (size : Nat) : Nat → List Found → Prop
  | nil {place : Nat} (hsize : place ≤ size) : Fits size place []
  | cons {place : Nat} {f : Found} {later : List Found} (hplace : place ≤ f.start) (hf : f.start ≤ f.stop)
      (hlater : Fits size f.stop later) : Fits size place (f :: later)

section Cuts

variable {line : Array Char} {size place : Nat} {found : List Found}

lemma piecesFrom_eq_map (line : Array Char) (place : Nat) (found : List Found) :
    piecesFrom line place found = (cutsFrom line.size place found).map (Stretch.piece line) := by
  induction found generalizing place with
  | nil => rfl
  | cons f later ih =>
    rw [piecesFrom, ih]
    rfl

lemma cutsFrom_filter_isMatch (size place : Nat) (found : List Found) :
    ((cutsFrom size place found).filter (·.isMatch)).map (fun s => (s.start, s.stop)) =
      found.map fun f => (f.start, f.stop) := by
  induction found generalizing place with
  | nil => rfl
  | cons f later ih => simpa [cutsFrom] using ih f.stop

lemma Fits.place_le (h : Fits size place found) : place ≤ size := by
  induction h with
  | nil hsize => exact hsize
  | cons hplace hf _ ih => omega

lemma Fits.bounds (h : Fits size place found) :
    ∀ s ∈ cutsFrom size place found, s.start ≤ s.stop ∧ s.stop ≤ size := by
  induction h with
  | nil hsize => simpa [cutsFrom] using hsize
  | cons hplace hf hlater ih =>
    have hsize := hlater.place_le
    simp only [cutsFrom, List.forall_mem_cons]
    exact ⟨⟨hplace, by omega⟩, ⟨hf, hsize⟩, ih⟩

/-- The pieces put together are the line from the place on. -/
lemma Fits.flatMap_slice (h : Fits line.size place found) :
    (cutsFrom line.size place found).flatMap (fun s => slice line s.start s.stop) = slice line place line.size := by
  induction h with
  | nil => simp [cutsFrom]
  | cons hplace hf hlater ih =>
    have hsize := hlater.place_le
    simp only [cutsFrom, List.flatMap_cons, ih]
    rw [slice_append line hf hsize, slice_append line hplace (hf.trans hsize)]

end Cuts

/-! ### Lines -/

/-- The matches of a scan that have characters. -/
def visible (found : List Found) : List Found :=
  found.filter fun f => f.start < f.stop

/-- What is shown of a line and its matches: nothing if there are none; otherwise the number of the line, a colon, the
stretches that the line is cut into and a line feed. A match is written between the codes that turn reverse video on and
off, and any other stretch by itself. The stretches can be cut out as they are and make up the line, and those in
reverse video are the matches. -/
structure Shows (line : List Char) (number : Nat) (found : List Found) (block : String) : Prop where
  eq_empty_iff : block = "" ↔ found = []
  block_eq : found ≠ [] → block = toString number ++ ":" ++
    String.join ((cutsFrom line.length 0 found).map fun s =>
      if s.isMatch then "\x1b[7m" ++ String.ofList (line.extract s.start s.stop) ++ "\x1b[0m"
      else String.ofList (line.extract s.start s.stop)) ++ "\n"
  bounds : ∀ s ∈ cutsFrom line.length 0 found, s.start ≤ s.stop ∧ s.stop ≤ line.length
  flatMap_eq : (cutsFrom line.length 0 found).flatMap (fun s => line.extract s.start s.stop) = line
  marked : ((cutsFrom line.length 0 found).filter (·.isMatch)).map (fun s => (s.start, s.stop)) =
    found.map fun f => (f.start, f.stop)

section Lines

variable {m : Matcher} {size place : Nat} {found : List Found} {r : Recogniser}

/-- The print follows the scan, but it stays behind while the matches have no characters. -/
lemma fits_of_yields (hm : m.Computes size r) (h : Search.Yields m size place found) {printed : Nat}
    (hplace : printed ≤ place) (hsize : printed ≤ size) : Fits size printed (visible found) := by
  induction h generalizing printed with
  | done => exact .nil hsize
  | @found place after outcome f later h hsome _ ih =>
    obtain ⟨rfl, hstart, hlength, ⟨a, ha, hs, hrecord⟩, -⟩ := Search.next_of_some h hsome
    obtain ⟨hstop, hbound⟩ := hm.of_success hlength ha hs
    have horder : f.start ≤ a.stop := (hm.ordered f.start hlength a.stop hstop).1
    have hstop : a.stop = f.stop := by rw [Attempt.stop, hrecord, Found.stop]
    have hnext := f.next_eq_max
    by_cases hempty : f.start < f.stop
    · rw [visible, List.filter_cons_of_pos (by simpa using hempty)]
      exact .cons (hplace.trans hstart) hempty.le (ih (by omega) (by omega))
    · -- a match without characters is not shown, and the print waits where it is
      rw [visible, List.filter_cons_of_neg (by simpa using hempty)]
      exact ih (by omega) hsize

lemma filter_isEmpty (found : List Found) : (found.filter fun f => !f.isEmpty) = visible found := by
  apply List.filter_congr
  intro f _
  rw [Found.isEmpty, ← decide_not, decide_eq_decide]
  exact Nat.not_le

/-- A line is shown if it has matches. -/
lemma showLine_eq_empty_iff {number : Nat} {line : Array Char} :
    showLine false number line found = "" ↔ found = [] := by
  cases found with
  | nil => simp [showLine]
  | cons f later =>
    simp only [showLine, List.isEmpty_cons, writeLine, ← String.toList_inj]
    simp

lemma slice_toArray (line : List Char) (start stop : Nat) : slice line.toArray start stop = line.extract start stop :=
  Array.toList_extract ..

/-- A match is written in reverse video. -/
lemma write_piece (line : List Char) (s : Stretch) :
    (s.piece line.toArray).write =
      if s.isMatch then "\x1b[7m" ++ String.ofList (line.extract s.start s.stop) ++ "\x1b[0m"
      else String.ofList (line.extract s.start s.stop) := by
  rw [← slice_toArray]
  rfl

lemma shows_showLine {line : List Char} (h : Fits line.length 0 found) (number : Nat) :
    Shows line number found (showLine false number line.toArray found) where
  eq_empty_iff := showLine_eq_empty_iff
  block_eq hne := by
    have hwritten := funext (write_piece line)
    simp only [showLine, writeLine, List.isEmpty_iff, hne, piecesFrom_eq_map, List.map_map, Function.comp_def, hwritten]
    simp
  bounds := h.bounds
  flatMap_eq := by
    have hall : slice line.toArray 0 line.toArray.size = line := by simp [slice]
    simp only [← slice_toArray]
    exact Eq.trans h.flatMap_slice hall
  marked := cutsFrom_filter_isMatch line.length 0 found

/-- What a search for a pattern writes of a line with its number. -/
def Writes (p : Pattern Char) (numbered : List Char × Nat) (block : String) : Prop :=
  ∃ scan, Search.scan (Grammar.matcher {} numbered.1.toArray p) numbered.1.length = some scan ∧
    Shows numbered.1 numbered.2 (visible scan.value) block

lemma exists_searchLine {p : Pattern Char} {line : List Char}
    (hm : (Grammar.matcher {} line.toArray p).Computes line.toArray.size r) (number : Nat) :
    ∃ found, searchLine p line.toArray = some found ∧
      Writes p (line, number) (showLine false number line.toArray found.value) := by
  have hanswers : ∀ q ≤ line.toArray.size, ∃ a, Grammar.matcher {} line.toArray p q line.toArray.size = some a := by
    intro q hq
    obtain ⟨a, ha, -⟩ := Matcher.outcome_eq_some_iff.1 (hm.outcome_eq q hq)
    exact ⟨a, ha⟩
  obtain ⟨scan, hscan, hyields⟩ := Search.scan_yields hanswers
  have hfits : Fits line.length 0 (visible scan.value) := fits_of_yields hm hyields (Nat.le_refl 0) (Nat.zero_le _)
  refine ⟨⟨visible scan.value, scan.log⟩, ?_, scan, hscan, shows_showLine hfits number⟩
  rw [searchLine, hscan, ← filter_isEmpty]
  rfl

lemma searchLines_cons {p : Pattern Char} {number : Nat} {line : List Char} {later : List (List Char)}
    {found : Logged (List Found)} {tally : Tally} (hfound : searchLine p (trimEnding line).toArray = some found)
    (htally : searchLines p false (number + 1) later = some tally) :
    searchLines p false number (line :: later) =
      some ⟨found.value.length + tally.total,
        showLine false number (trimEnding line).toArray found.value ++ tally.output, found.log ++ tally.log⟩ := by
  rw [searchLines, hfound, htally]
  rfl

/-- Each line is written with its number, and matches are counted if some line is written. -/
lemma exists_searchLines {p : Pattern Char} (hm : ∀ line, ∃ r, (Grammar.matcher {} line p).Computes line.size r)
    (number : Nat) (ls : List (List Char)) :
    ∃ tally blocks, searchLines p false number ls = some tally ∧
      List.Forall₂ (Writes p) ((ls.map trimEnding).zipIdx number) blocks ∧ tally.output = String.join blocks ∧
      (tally.total = 0 ↔ ∀ block ∈ blocks, block = "") := by
  induction ls generalizing number with
  | nil => exact ⟨{}, [], rfl, .nil, rfl, by simp⟩
  | cons line later ih =>
    obtain ⟨r, hr⟩ := hm (trimEnding line).toArray
    obtain ⟨found, hfound, hwrites⟩ := exists_searchLine hr number
    obtain ⟨tally, blocks, htally, hblocks, houtput, htotal⟩ := ih (number + 1)
    refine ⟨_, _ :: blocks, searchLines_cons hfound htally, .cons hwrites hblocks, ?_, ?_⟩
    · rw [String.join_cons, houtput]
    · -- the total is a sum, so it is nothing only where no line has a match
      rw [List.forall_mem_cons, showLine_eq_empty_iff, ← htotal, Nat.add_eq_zero_iff, List.length_eq_zero_iff]

end Lines

/-! ### Whole searches -/

lemma search_eq_ok {options : Options} {pattern : String} {text : List Char} {p : Pattern Char} {tally : Tally}
    (hp : Shorthand.compile pattern.toList = .ok p) (htally : searchLines p options.tree 1 (lines text) = some tally) :
    search options pattern text = .ok
      { status := if tally.total = 0 then 1 else 0
        output := tally.output
        errors := writeLogs options.verbosity (tally.log ++ [⟨.info, toString tally.total ++ " matches"⟩]) } := by
  rw [search, hp]
  simp only [Except.mapError, bind, Except.bind, htally]
  rfl

/-- A search with a pattern that can be read goes through the lines of the text. It writes those in which the pattern
matches some characters, as they are but for the reverse video, and succeeds if there are any. -/
theorem execute_shows_matches {options : Options} {source : Source} {pattern : String} {text : List Char}
    {p : Pattern Char} (hpattern : options.pattern = some pattern) (htree : options.tree = false)
    (htext : decode source = .ok text) (hp : Shorthand.compile pattern.toList = .ok p) :
    ∃ ls blocks, Broken text ls ∧ List.Forall₂ (Writes p) (ls.zipIdx 1) blocks ∧
      (options.execute source).output = String.join blocks ∧
      (options.execute source).status = if ∀ block ∈ blocks, block = "" then 1 else 0 := by
  obtain ⟨tally, blocks, htally, hblocks, houtput, htotal⟩ := exists_searchLines (computes_of_compile hp) 1 (lines text)
  rw [← htree] at htally
  refine ⟨_, blocks, broken_lines text, hblocks, ?_, ?_⟩
  · simp only [Options.execute, htext, hpattern, search_eq_ok hp htally, houtput]
  · simp only [Options.execute, htext, hpattern, search_eq_ok hp htally, htotal]

/-- Digits, of which there may be none, in lines that end in each of the ways: neither the line without digits nor what
follows the last break is written. -/
theorem digits_shown :
    let options : Options := { pattern := some "*N" }
    let source : Source := .ok "a1\r\nb\r22\n".toUTF8
    let p := (Pattern.literal CharClass.digit.test).star
    (options.pattern = some "*N" ∧ options.tree = false ∧ decode source = .ok "a1\r\nb\r22\n".toList ∧
      Shorthand.compile "*N".toList = .ok p) ∧
    (∃ ls blocks, Broken "a1\r\nb\r22\n".toList ls ∧ List.Forall₂ (Writes p) (ls.zipIdx 1) blocks ∧
      (options.execute source).output = String.join blocks ∧
      (options.execute source).status = if ∀ block ∈ blocks, block = "" then 1 else 0) ∧
    (options.execute source).output = "1:a\x1b[7m1\x1b[0m\n3:\x1b[7m22\x1b[0m\n" ∧
    (options.execute source).status = 0 := by
  intro options source p
  have htext : decode source = .ok "a1\r\nb\r22\n".toList := decode_toUTF8 _
  have hp : Shorthand.compile "*N".toList = .ok p := rfl
  have htold : (searchLines p false 1 (lines "a1\r\nb\r22\n".toList)).map (fun tally => (tally.total, tally.output)) =
      some (2, "1:a\x1b[7m1\x1b[0m\n3:\x1b[7m22\x1b[0m\n") := by
    decide +kernel
  obtain ⟨tally, htally, heq⟩ := Option.map_eq_some_iff.1 htold
  obtain ⟨htotal, houtput⟩ := Prod.mk.inj heq
  have hsearch : search options "*N" _ = _ := search_eq_ok hp htally
  refine ⟨⟨rfl, rfl, htext, hp⟩, execute_shows_matches rfl rfl htext hp, ?_, ?_⟩
  · simp only [Options.execute, htext, options, hsearch, houtput]
  · simp only [Options.execute, htext, options, hsearch, htotal, OfNat.ofNat_ne_zero, if_false]

end PegTrace.Cli

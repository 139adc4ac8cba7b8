import NodeAgent.Http.Request
import NodeAgent.Proofs.Text.Run
import NodeAgent.Proofs.Text.Words
/-!
Well-formed requests to get something: a line of three words, whose last one names a version that is
spoken, headers, a blank line, and whatever follows. Such a request is read as what it asks for: its
line as it stands, and its target as the path, save that slashes in front of it are taken for one.

Main result: `Get.read_text`, from one lemma for each reader over what it reads off the front.
-/

namespace NodeAgent.Http

/-! ## Requests -/

/-- A header, without the end of its line. -/
structure Header where
  text : List Char
  nonempty : text ≠ []
  unbroken : '\n' ∉ text
  fits : text.length + 2 ≤ lineLimit

def Header.line (header : Header) : List Char := header.text ++ "\r\n".toList

/-- A well-formed request to get a target, under the first version or one of its successors. -/
structure Get where
  target : List Char
  minor : List Char
  headers : List Header := []
  body : List Char := []
  target_nonempty : target ≠ []
  target_solid : ∀ c ∈ target, Text.isBlank c = false
  minor_nonempty : minor ≠ []
  minor_digits : ∀ c ∈ minor, c.isDigit = true
  minor_short : minor.length ≤ 10
  fits : target.length + minor.length + 14 ≤ lineLimit
  few_headers : headers.length < headerLimit

namespace Get

variable (get : Get)

def version : List Char := "HTTP/1.".toList ++ get.minor

def lineChars : List Char := "GET".toList ++ ' ' :: (get.target ++ ' ' :: get.version)

/-- The line of a request, without its end. -/
def line : String := String.ofList get.lineChars

/-- What a request is for. -/
def path : String := String.ofList (singleSlash get.target)

/-- What follows the line of a request. -/
def rest : List Char := get.headers.flatMap Header.line ++ ("\r\n".toList ++ get.body)

def text : List Char := get.lineChars ++ "\r\n".toList ++ get.rest

end Get

/-! ## Lines -/

theorem takeLine_append {line : List Char} (h : '\n' ∉ line) (rest : List Char) :
    takeLine (line ++ "\r\n".toList ++ rest) = (line ++ "\r\n".toList, rest) := by
  have hrun : ∀ c ∈ line ++ ['\r'], (c != '\n') = true := by
    intro c hc
    rcases List.mem_append.mp hc with hc | hc
    · exact bne_iff_ne.mpr fun hc' => h (hc' ▸ hc)
    · rw [List.mem_singleton.mp hc]
      decide
  have hcut : line ++ "\r\n".toList ++ rest = (line ++ ['\r']) ++ '\n' :: rest := by simp
  have hstops : Text.Stops (· != '\n') ('\n' :: rest) := .cons (by decide)
  rw [hcut, takeLine, Text.takeWhile_run hrun hstops, Text.dropWhile_run hrun hstops]
  simp

theorem headerFault?_line {line : List Char} (unbroken : '\n' ∉ line)
    (fits : line.length + 2 ≤ lineLimit) (count : Nat) (rest : List Char) :
    headerFault? (count + 1) (line ++ "\r\n".toList ++ rest) =
      if line = [] then none else headerFault? count rest := by
  have hlength : ¬ lineLimit < (line ++ "\r\n".toList).length := by
    simpa using fits
  have hends : endsHeaders (line ++ "\r\n".toList) = decide (line = []) := by
    cases line with
    | nil => rfl
    | cons c line => cases line <;> simp [endsHeaders]
  rw [headerFault?, takeLine_append unbroken]
  simp only [if_neg hlength, hends, decide_eq_true_eq]

/-- Fewer headers than the limit, each of them on a line that fits, are no fault. -/
theorem headerFault?_of_few {headers : List Header} {count : Nat} (few : headers.length < count)
    (body : List Char) :
    headerFault? count (headers.flatMap Header.line ++ ("\r\n".toList ++ body)) = none := by
  induction headers generalizing count with
  | nil =>
    obtain ⟨count, rfl⟩ := Nat.exists_eq_succ_of_ne_zero (Nat.ne_of_gt few)
    have unbroken : '\n' ∉ ([] : List Char) := List.not_mem_nil
    exact headerFault?_line unbroken (by decide) count body
  | cons header headers ih =>
    obtain ⟨count, rfl⟩ := Nat.exists_eq_succ_of_ne_zero (Nat.ne_zero_of_lt few)
    have few : headers.length < count := by simpa using few
    rw [List.flatMap_cons, List.append_assoc, Header.line,
      headerFault?_line header.unbroken header.fits, if_neg header.nonempty]
    exact ih few

/-! ## The first line -/

theorem isBlank_digit {c : Char} (h : c.isDigit = true) : Text.isBlank c = false := by
  obtain ⟨hlow, hhigh⟩ := Char.isDigit_iff_toNat.mp h
  have hlow : 48 ≤ c.toNat := hlow
  have hhigh : c.toNat ≤ 57 := hhigh
  simp [Text.isBlank]
  omega

namespace Get

variable (get : Get)

theorem version_eq :
    get.version = 'H' :: 'T' :: 'T' :: 'P' :: '/' :: '1' :: '.' :: get.minor := rfl

theorem version_solid : ∀ c ∈ get.version, Text.isBlank c = false := by
  refine List.forall_mem_append.mpr ⟨by simp [Text.isBlank], ?_⟩
  intro c hc
  exact isBlank_digit (get.minor_digits c hc)

theorem words_lineChars :
    Text.words get.lineChars = ["GET".toList, get.target, get.version] := by
  have hget : ∀ c ∈ "GET".toList, Text.isBlank c = false := by simp [Text.isBlank]
  have hversion : get.version ≠ [] := List.cons_ne_nil _ _
  rw [lineChars, Text.words_append (by decide), Text.words_append (by decide),
    Text.words_run (by decide) hget, Text.words_run get.target_nonempty get.target_solid,
    Text.words_run hversion get.version_solid]
  rfl

theorem version?_version : version? get.version = some ('1' :: '.' :: get.minor, 1) := by
  have hpoint : ∀ c ∈ get.minor, (c == '.') = false := by
    intro c hc
    have hdigit := get.minor_digits c hc
    cases h : c == '.' with
    | false => rfl
    | true => simp [beq_iff_eq.mp h] at hdigit
  have hsplit : Text.splitWhere (· == '.') ('1' :: '.' :: get.minor) = [['1'], get.minor] := by
    rw [Text.splitWhere_eq]
    have hone : ∀ c ∈ ['1'], (c == '.') = false := by simp
    have hcut := List.splitOnP_append_cons_of_forall_mem hone '.' rfl get.minor
    rwa [List.splitOnP_eq_singleton hpoint] at hcut
  have hmajor : Nat.ofDigitChars 10 ['1'] 0 = 1 := by decide
  have hparts : ([['1'], get.minor].all fun part =>
      !part.isEmpty && part.all Char.isDigit && part.length ≤ 10) = true := by
    simpa [get.minor_nonempty, get.minor_short] using get.minor_digits
  rw [version?, version_eq]
  simp only [List.drop_succ_cons, List.drop_zero, hsplit, hmajor]
  rw [if_pos hparts]
  rfl

theorem styleOf_version : styleOf get.version = .full := by
  rw [styleOf, version_eq, if_neg (by simp)]

theorem lineChars_unbroken : ∀ c ∈ get.lineChars, c ≠ '\r' ∧ c ≠ '\n' := by
  have solid : ∀ {word : List Char}, (∀ c ∈ word, Text.isBlank c = false) →
      ∀ c ∈ word, c ≠ '\r' ∧ c ≠ '\n' := by
    intro word hword c hc
    constructor
    all_goals
      rintro rfl
      exact absurd (hword _ hc) (by decide)
  refine List.forall_mem_append.mpr ⟨by simp, List.forall_mem_cons.mpr ⟨by decide, ?_⟩⟩
  refine List.forall_mem_append.mpr ⟨solid get.target_solid, ?_⟩
  exact List.forall_mem_cons.mpr ⟨by decide, solid get.version_solid⟩

theorem withoutBreak_line : withoutBreak (get.lineChars ++ "\r\n".toList) = get.lineChars := by
  have hbreak : ∀ c ∈ ("\r\n".toList).reverse, (c == '\r' || c == '\n') = true := by simp
  have hstops : Text.Stops (fun c => c == '\r' || c == '\n') get.lineChars.reverse := by
    intro c hc
    simpa using get.lineChars_unbroken c (List.mem_reverse.mp (List.mem_of_mem_head? hc))
  rw [withoutBreak, Text.dropTrailing, List.reverse_append, Text.dropWhile_run hbreak hstops,
    List.reverse_reverse]

theorem line_fits : (get.lineChars ++ "\r\n".toList).length ≤ lineLimit := by
  have hget : "GET".toList.length = 3 := by decide
  have hbreak : "\r\n".toList.length = 2 := by decide
  have hfits := get.fits
  rw [lineChars, version_eq]
  simp only [List.length_append, List.length_cons, hget, hbreak]
  omega

theorem ofWords_eq (rest : List Char) :
    ofWords get.line ["GET".toList, get.target, get.version] rest =
      ofMethod get.line "GET".toList get.target .full rest := by
  have hlast : [get.version].getLastD [] = get.version := rfl
  rw [ofWords]
  · rw [hlast, get.version?_version, get.styleOf_version]
    rfl
  · simp

/-- A well-formed request is read as what it asks for. -/
theorem read_text : Request.read get.text = .get get.line get.path .full := by
  have hunbroken : '\n' ∉ get.lineChars := fun h => (get.lineChars_unbroken _ h).2 rfl
  have hheaders : headerFault? headerLimit get.rest = none :=
    headerFault?_of_few get.few_headers get.body
  rw [Request.read, text, takeLine_append hunbroken]
  simp only [if_neg (Nat.not_lt.mpr get.line_fits), withoutBreak_line, words_lineChars]
  rw [← line, ofWords_eq, ofMethod, hheaders]
  rfl

end Get

end NodeAgent.Http

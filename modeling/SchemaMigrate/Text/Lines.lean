/-!
Lines of a text. A line ends at a line feed, a carriage return, the pair of both, or one of the other
separators below; an end of line at the very end starts no further line.
-/

namespace SchemaMigrate.Text

/-- The characters that end a line. -/
def lineEnds : List Char :=
  ['\n', '\r', '\x0b', '\x0c', '\x1c', '\x1d', '\x1e', '\u0085', '\u2028', '\u2029']

def isLineEnd (c : Char) : Bool := lineEnds.contains c

/-- Puts a character in front of the first line. -/
def consLine (c : Char) : List (List Char) → List (List Char)
  | [] => [[c]]
  | line :: lines => (c :: line) :: lines

/-- The lines of a text, without their ends. -/
def splitLines : List Char → List (List Char)
  | [] => []
  | '\r' :: '\n' :: rest => [] :: splitLines rest
  | c :: rest => if isLineEnd c then [] :: splitLines rest else consLine c (splitLines rest)

/-- Writes every end of line that is a carriage return, alone or before a line feed, as a line feed. -/
def unifyNewlines : List Char → List Char
  | [] => []
  | '\r' :: '\n' :: rest => '\n' :: unifyNewlines rest
  | c :: rest => (if c = '\r' then '\n' else c) :: unifyNewlines rest

/-- The pieces of a text between the occurrences of a separator; always at least one. -/
def splitOnChar (separator : Char) : List Char → List (List Char)
  | [] => [[]]
  | c :: rest =>
      if c = separator then [] :: splitOnChar separator rest
      else consLine c (splitOnChar separator rest)

/-- Texts joined with a separator between them. -/
def joinWith (separator : String) : List String → String
  | [] => ""
  | [text] => text
  | text :: rest => text ++ separator ++ joinWith separator rest

theorem isLineEnd_eq_true_iff {c : Char} : isLineEnd c = true ↔ c ∈ lineEnds := by
  simp [isLineEnd]

/-- No line holds an end of line. -/
theorem not_isLineEnd_of_mem_splitLines {text line : List Char} (h : line ∈ splitLines text) :
    ∀ c ∈ line, isLineEnd c = false := by
  fun_induction splitLines text generalizing line with
  | case1 => simp at h
  | case2 rest ih =>
      rcases List.mem_cons.1 h with rfl | h
      · simp
      · exact ih h
  | case3 c rest _ hc ih =>
      rcases List.mem_cons.1 h with rfl | h
      · simp
      · exact ih h
  | case4 c rest _ hc ih =>
      cases hs : splitLines rest with
      | nil =>
          rw [hs, consLine, List.mem_singleton] at h
          subst h
          simpa using hc
      | cons first others =>
          rw [hs, consLine] at h
          rcases List.mem_cons.1 h with rfl | h
          · intro d hd
            rcases List.mem_cons.1 hd with rfl | hd
            · simpa using hc
            · exact ih (by simp [hs]) d hd
          · exact ih (by simp [hs, h])

end SchemaMigrate.Text

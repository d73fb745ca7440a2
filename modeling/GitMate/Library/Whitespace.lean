import GitMate.Library.Text

namespace JavaScript

/-!
# White space

The class `\s` of a regular expression and the method `trim` agree on what
white space is: the white space and line terminators of the language, all of
them single code units.  A text is normalized by turning every line break into
a line feed, every run of white space into one space, and by trimming it.

Two texts are respaced versions of each other when they differ only in what
stands in their runs of white space.  Normalization forgets exactly such
differences.
-/

/-- The class `\s`. -/
def isWhitespace (code : CodeUnit) : Bool :=
  between 0x09 0x0D code || code == 0x20 || code == 0xA0 || code == 0x1680 ||
    between 0x2000 0x200A code || code == 0x2028 || code == 0x2029 || code == 0x202F ||
      code == 0x205F || code == 0x3000 || code == 0xFEFF

def CARRIAGE_RETURN : CodeUnit := 0x0D
def LINE_FEED : CodeUnit := 0x0A
def SPACE : CodeUnit := 0x20

/-- `value.replace(/\r\n?/g, '\n')`. -/
def replaceLineBreaks : Text -> Text
  | [] => []
  | [code] => [if code = CARRIAGE_RETURN then LINE_FEED else code]
  | code :: next :: rest =>
      if code = CARRIAGE_RETURN then
        if next = LINE_FEED then LINE_FEED :: replaceLineBreaks rest
        else LINE_FEED :: replaceLineBreaks (next :: rest)
      else code :: replaceLineBreaks (next :: rest)

/-- `value.replace(/\s+/g, ' ')`, inside or outside a run of white space that
has already been replaced. -/
def collapseFrom : Bool -> Text -> Text
  | _, [] => []
  | inside, code :: rest =>
      if isWhitespace code then
        if inside then collapseFrom true rest else SPACE :: collapseFrom true rest
      else code :: collapseFrom false rest

def collapseWhitespace (value : Text) : Text := collapseFrom false value

/-- `value.trim()`. -/
def trim (value : Text) : Text :=
  ((value.dropWhile isWhitespace).reverse.dropWhile isWhitespace).reverse

/-! ## Respacing -/

/-- The texts differ only in their runs of white space, each of which stands
for a run of the other text. -/
inductive Respaced : Text -> Text -> Prop where
  | nil : Respaced [] []
  | code {left right : Text} (code : CodeUnit) (rest : Respaced left right) :
      Respaced (code :: left) (code :: right)
  | run {left right : Text} {run otherRun : Text} (nonempty : run ≠ [])
      (otherNonempty : otherRun ≠ []) (white : run.all isWhitespace = true)
      (otherWhite : otherRun.all isWhitespace = true) (rest : Respaced left right) :
      Respaced (run ++ left) (otherRun ++ right)

theorem collapseFrom_run {run : Text} (white : run.all isWhitespace = true) (rest : Text) :
    collapseFrom true (run ++ rest) = collapseFrom true rest := by
  induction run with
  | nil => rfl
  | cons code run inductionHypothesis =>
      rcases (Bool.and_eq_true _ _).mp (List.all_cons.symm.trans white) with ⟨first, others⟩
      rw [List.cons_append, collapseFrom, if_pos first, if_pos rfl, inductionHypothesis others]

/-- A run gives at most one space, wherever it starts. -/
theorem collapseFrom_nonempty_run {run : Text} (nonempty : run ≠ [])
    (white : run.all isWhitespace = true) (inside : Bool) (rest : Text) :
    collapseFrom inside (run ++ rest) =
      (if inside then [] else [SPACE]) ++ collapseFrom true rest := by
  cases run with
  | nil => exact absurd rfl nonempty
  | cons code run =>
      rcases (Bool.and_eq_true _ _).mp (List.all_cons.symm.trans white) with ⟨first, others⟩
      rw [List.cons_append, collapseFrom, if_pos first, collapseFrom_run others]
      cases inside <;> rfl

theorem Respaced.collapseFrom_eq {left right : Text} (respaced : Respaced left right)
    (inside : Bool) : collapseFrom inside left = collapseFrom inside right := by
  induction respaced generalizing inside with
  | nil => rfl
  | code code rest inductionHypothesis =>
      rw [collapseFrom, collapseFrom, inductionHypothesis, inductionHypothesis]
  | run nonempty otherNonempty white otherWhite rest inductionHypothesis =>
      rw [collapseFrom_nonempty_run nonempty white, collapseFrom_nonempty_run otherNonempty
        otherWhite, inductionHypothesis]

/-- Replacing line breaks only changes runs of white space. -/
theorem respaced_replaceLineBreaks (value : Text) : Respaced (replaceLineBreaks value) value := by
  fun_induction replaceLineBreaks value with
  | case1 => exact .nil
  | case2 code =>
      split
      · rename_i same
        rw [same]
        exact .run (List.cons_ne_nil LINE_FEED []) (List.cons_ne_nil CARRIAGE_RETURN [])
          (by decide) (by decide) .nil
      · exact .code code .nil
  | case3 rest inductionHypothesis =>
      exact .run (List.cons_ne_nil LINE_FEED []) (List.cons_ne_nil CARRIAGE_RETURN [LINE_FEED])
        (by decide) (by decide) inductionHypothesis
  | case4 next rest different inductionHypothesis =>
      exact .run (List.cons_ne_nil LINE_FEED []) (List.cons_ne_nil CARRIAGE_RETURN [])
        (by decide) (by decide) inductionHypothesis
  | case5 code next rest different inductionHypothesis => exact .code code inductionHypothesis

theorem Respaced.refl (value : Text) : Respaced value value := by
  induction value with
  | nil => exact .nil
  | cons code rest inductionHypothesis => exact .code code inductionHypothesis

theorem Respaced.symm {left right : Text} (respaced : Respaced left right) :
    Respaced right left := by
  induction respaced with
  | nil => exact .nil
  | code code rest inductionHypothesis => exact .code code inductionHypothesis
  | run nonempty otherNonempty white otherWhite rest inductionHypothesis =>
      exact .run otherNonempty nonempty otherWhite white inductionHypothesis

/-- `value.replace(/\r\n?/g, '\n').replace(/\s+/g, ' ').trim()`. -/
def normalizeText (value : Text) : Text := trim (collapseWhitespace (replaceLineBreaks value))

/-- Respaced texts are normalized to the same text. -/
theorem Respaced.normalizeText_eq {left right : Text} (respaced : Respaced left right) :
    normalizeText left = normalizeText right := by
  have same : collapseWhitespace (replaceLineBreaks left) =
      collapseWhitespace (replaceLineBreaks right) :=
    calc collapseWhitespace (replaceLineBreaks left)
      _ = collapseWhitespace left := (respaced_replaceLineBreaks left).collapseFrom_eq false
      _ = collapseWhitespace right := respaced.collapseFrom_eq false
      _ = collapseWhitespace (replaceLineBreaks right) :=
        ((respaced_replaceLineBreaks right).collapseFrom_eq false).symm
  rw [normalizeText, normalizeText, same]

end JavaScript

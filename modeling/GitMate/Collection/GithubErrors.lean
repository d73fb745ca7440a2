import GitMate.Library.Number

namespace GitMate.Collection

open JavaScript

/-!
# Errors of the GitHub client

What the client throws is looked at from outside only: at properties that may
be absent, of another type than expected, or inherited.  A thrown value is
therefore a tree of whatever a program can throw, as far as it can be looked at
without running code of its own; a value that refers back to itself is unfolded
as deep as the inspection goes.

The case mappings of strings are parameters.  The inspection compares mapped
texts with fixed ones, and nothing proved of it depends on what the mappings
do.
-/

/-- A thrown value.  An object lists what `Object.entries` would return and
what is found under other keys of its own or of a prototype; an array has its
elements besides.  `nonObject` stands for functions, symbols and big
integers. -/
inductive Value where
  | undefined
  | null
  | boolean (value : Bool)
  | number (value : Number)
  | string (value : Text)
  | nonObject
  | object (isError : Bool) (elements : Option (List Value)) (entries inherited : List (Text × Value))
  | headers (fields : List (Text × Text))
  | githubRateLimitError (status : Number) (retryAt : Date) (cause : Option Value)

namespace Value

def isGithubRateLimitError : Value -> Bool
  | .githubRateLimitError .. => true
  | _ => false

/-- `value instanceof Error`. -/
def isErrorInstance : Value -> Bool
  | .object isError .. => isError
  | .githubRateLimitError .. => true
  | _ => false

/-- `typeof value === 'object' && value !== null`. -/
def isObject : Value -> Bool
  | .object .. | .headers _ | .githubRateLimitError .. => true
  | _ => false

/-- `value[name]` for an object that has the property.  Of the names that are
looked up, `status` is the only one that a rate-limit error has, and `Headers`
have none of them. -/
def property (value : Value) (name : String) : Option Value :=
  match value with
  | .object _ _ entries inherited =>
      ((entries ++ inherited).find? fun entry => entry.1 == text name).map Prod.snd
  | .githubRateLimitError status _ _ => if name = "status" then some (.number status) else none
  | _ => none

end Value

/-! ## Inspection -/

/-- The object under a property; everything else is taken for `null`. -/
def objectProperty (value : Value) (name : String) : Value :=
  match value.property name with
  | some nested => if nested.isObject then nested else .null
  | none => .null

def arrayProperty (value : Value) (name : String) : List Value :=
  match value.property name with
  | some (.object _ (some elements) _ _) => elements
  | _ => []

def stringProperty (value : Value) (name : String) : Option Text :=
  match value.property name with
  | some (.string nested) => some nested
  | _ => none

def numericProperty (value : Value) (name : String) : Option Number :=
  match value.property name with
  | some (.number nested) => some nested
  | _ => none

variable (toLowerCase toUpperCase : Text -> Text)

/-- A header that is a string or a number, as a text. -/
def headerText : Value -> Option Text
  | .string value => some value
  | .number value => some value.toText
  | _ => none

/-- The entries that `set` is called with, in order.  A rate-limit error in the
place of the headers has no entry under a name that is asked for. -/
def appendHeaders (normalized : List (Text × Text)) (rawHeaders : Value) : List (Text × Text) :=
  match rawHeaders with
  | .headers fields => normalized ++ fields.map fun field => (toLowerCase field.1, field.2)
  | .object _ _ entries _ =>
      normalized ++ entries.filterMap fun entry =>
        (headerText entry.2).map fun value => (toLowerCase entry.1, value)
  | _ => normalized

def responseHeaders (error : Value) : List (Text × Text) :=
  let response := objectProperty error "response"
  appendHeaders toLowerCase
    (appendHeaders toLowerCase [] (objectProperty error "headers"))
    (objectProperty response "headers")

/-- `Map.get`: of several entries with one key the last counts. -/
def getHeader (headers : List (Text × Text)) (name : String) : Option Text :=
  (headers.reverse.find? fun header => header.1 == text name).map Prod.snd

def hasRateLimitMetadata (error : Value) : Bool :=
  let response := objectProperty error "response"
  let data := objectProperty response "data"
  let documented := match stringProperty data "documentation_url" with
    | some documentationUrl => decide (text "rate-limit" <:+: toLowerCase documentationUrl)
    | none => false
  documented ||
    (arrayProperty data "errors" ++ arrayProperty response "errors" ++
      arrayProperty error "errors").any fun item =>
        match stringProperty item "type" with
        | some type => toUpperCase type == text "RATE_LIMITED"
        | none => false

/-! ## The time of the next try -/

def MAX_RATE_LIMIT_DELAY_MS : Nat := 24 * 60 * 60 * 1000
def DEFAULT_RATE_LIMIT_DELAY_MS : Nat := 60 * 1000

/-- `null` is `none`; a date that is computed may still be invalid.  A product
that overflows exceeds the maximum. -/
def validRetryAfter (value : Option Text) (now : Date) : Option Date :=
  match value with
  | none => none
  | some value =>
      if trim value = [] then none
      else
        match Number.parse value with
        | .finite seconds =>
            if seconds < 0 then none
            else
              match Number.nearest (seconds * 1000) with
              | .finite milliseconds =>
                  if MAX_RATE_LIMIT_DELAY_MS < milliseconds then none
                  else some (now.later milliseconds.ceil)
              | _ => none
        | _ => none

/-- Comparisons with an invalid date fail. -/
def validRateLimitReset (value : Option Text) (now : Date) : Option Date :=
  match value with
  | none => none
  | some value =>
      if trim value = [] then none
      else
        match Number.parse value with
        | .finite epochSeconds =>
            if epochSeconds < 0 then none
            else
              match Date.ofNumber (Number.nearest (epochSeconds * 1000)), now with
              | some reset, some time =>
                  let delay := reset.milliseconds - time.milliseconds
                  if 0 < delay ∧ delay ≤ MAX_RATE_LIMIT_DELAY_MS then some (some reset) else none
              | _, _ => none
        | _ => none

/-- The remaining count is given and is zero. -/
def isExhausted (headers : List (Text × Text)) : Bool :=
  (getHeader headers "x-ratelimit-remaining").map trim == some (text "0")

/-- The first of the retry-after header, the reset of an exhausted budget and
the default delay. -/
def rateLimitRetryAt (headers : List (Text × Text)) (now : Date) : Date :=
  match validRetryAfter (getHeader headers "retry-after") now with
  | some retryAfter => retryAfter
  | none =>
      match (if isExhausted headers then
          validRateLimitReset (getHeader headers "x-ratelimit-reset") now else none) with
      | some reset => reset
      | none => now.later DEFAULT_RATE_LIMIT_DELAY_MS

def normalizeGithubRequestError (error : Value) (now : Date) : Value :=
  if error.isGithubRateLimitError then error
  else
    let status := numericProperty error "status"
    let metadataIndicatesRateLimit := hasRateLimitMetadata toLowerCase toUpperCase error
    if status ≠ some (.finite 403) ∧ status ≠ some (.finite 429) ∧
        ¬ (status = none ∧ metadataIndicatesRateLimit = true) then error
    else
      let headers := responseHeaders toLowerCase error
      let retryAfter := validRetryAfter (getHeader headers "retry-after") now
      if status = some (.finite 429) ∨ retryAfter ≠ none ∨ isExhausted headers = true ∨
          metadataIndicatesRateLimit = true then
        .githubRateLimitError (status.getD (.finite 429)) (rateLimitRetryAt headers now)
          (if error.isErrorInstance then some error else none)
      else error

/-! ## What the inspection decides -/

/-- The thrown value reports a rate limit. -/
def ReportsRateLimit (error : Value) (now : Date) : Prop :=
  let status := numericProperty error "status"
  let headers := responseHeaders toLowerCase error
  let metadata := hasRateLimitMetadata toLowerCase toUpperCase error = true
  status = some (.finite 429) ∨
    (status = some (.finite 403) ∧
      (validRetryAfter (getHeader headers "retry-after") now ≠ none ∨
        isExhausted headers = true ∨ metadata)) ∨
    (status = none ∧ metadata)

/-- A value that is not yet a rate-limit error becomes one if it reports a rate
limit, and stays what it is otherwise. -/
theorem normalize_cases (error : Value) (now : Date) (other : error.isGithubRateLimitError = false) :
    (ReportsRateLimit toLowerCase toUpperCase error now ∧
      normalizeGithubRequestError toLowerCase toUpperCase error now =
        .githubRateLimitError ((numericProperty error "status").getD (.finite 429))
          (rateLimitRetryAt (responseHeaders toLowerCase error) now)
          (if error.isErrorInstance then some error else none)) ∨
    (¬ ReportsRateLimit toLowerCase toUpperCase error now ∧
      normalizeGithubRequestError toLowerCase toUpperCase error now = error) := by
  unfold normalizeGithubRequestError ReportsRateLimit
  rw [other, if_neg Bool.false_ne_true]
  simp only
  split
  · rename_i unrelated
    refine .inr ⟨fun reports => ?_, rfl⟩
    rcases reports with tooMany | ⟨forbidden, _⟩ | ⟨absent, metadata⟩
    · exact unrelated.2.1 tooMany
    · exact unrelated.1 forbidden
    · exact unrelated.2.2 ⟨absent, metadata⟩
  · rename_i related
    split
    · rename_i indicated
      refine .inl ⟨?_, rfl⟩
      by_cases tooMany : numericProperty error "status" = some (.finite 429)
      · exact .inl tooMany
      · by_cases forbidden : numericProperty error "status" = some (.finite 403)
        · exact .inr (.inl ⟨forbidden, indicated.resolve_left tooMany⟩)
        · refine .inr (.inr (not_not.mp fun otherwise => related ⟨forbidden, tooMany, otherwise⟩))
    · rename_i unindicated
      refine .inr ⟨fun reports => unindicated ?_, rfl⟩
      rcases reports with tooMany | ⟨_, indicated⟩ | ⟨_, metadata⟩
      · exact .inl tooMany
      · exact .inr indicated
      · exact .inr (.inr (.inr metadata))

/-! ## The bounds of the time -/

/-- The date is valid, and the delay until then is at most a day. -/
def WithinDelay (now : Time) (date : Date) : Prop :=
  ∃ retryAt : Time, date = some retryAt ∧ now.milliseconds ≤ retryAt.milliseconds ∧
    retryAt.milliseconds ≤ now.milliseconds + MAX_RATE_LIMIT_DELAY_MS

/-- A delay of at most a day, away from the end of the range of dates. -/
theorem later_withinDelay {now : Time} {delay : Int}
    (range : now.milliseconds + MAX_RATE_LIMIT_DELAY_MS ≤ MAX_TIME) (ahead : 0 ≤ delay)
    (limit : delay ≤ MAX_RATE_LIMIT_DELAY_MS) : WithinDelay now (Date.later (some now) delay) := by
  rcases Date.later_some ahead ((Int.add_le_add_left limit _).trans range) with ⟨moved, found, at'⟩
  refine ⟨moved, found, ?_, ?_⟩
  · rw [at']
    exact Int.le_add_of_nonneg_right ahead
  · rw [at']
    exact Int.add_le_add_left limit _

/-- Fractions of a millisecond are rounded up, but the limit is a whole
number. -/
theorem validRetryAfter_withinDelay {value : Option Text} {now : Time} {date : Date}
    (range : now.milliseconds + MAX_RATE_LIMIT_DELAY_MS ≤ MAX_TIME)
    (valid : validRetryAfter value (some now) = some date) : WithinDelay now date := by
  unfold validRetryAfter at valid
  split at valid
  · cases valid
  · split at valid
    · cases valid
    · split at valid
      · split at valid
        · cases valid
        · rename_i seconds _ nonneg
          split at valid
          · rename_i milliseconds product
            split at valid
            · cases valid
            · rename_i limit
              have ahead : 0 ≤ milliseconds :=
                Number.nearest_nonneg (mul_nonneg (not_lt.1 nonneg) (by norm_num)) product
              rw [← Option.some.inj valid]
              refine later_withinDelay range ?_ ?_
              · exact Int.cast_nonneg_iff.1 (ahead.trans Rat.le_ceil)
              · exact Rat.ceil_le_iff.2 (by exact_mod_cast not_lt.1 limit)
          · cases valid
      · cases valid

theorem validRateLimitReset_withinDelay {value : Option Text} {now : Time} {date : Date}
    (valid : validRateLimitReset value (some now) = some date) : WithinDelay now date := by
  unfold validRateLimitReset at valid
  split at valid
  · cases valid
  · split at valid
    · cases valid
    · split at valid
      · split at valid
        · cases valid
        · split at valid
          · rename_i reset time _ same
            cases same
            simp only at valid
            split at valid
            · rename_i delay
              rw [← Option.some.inj valid]
              exact ⟨reset, rfl, by omega, by omega⟩
            · cases valid
          · cases valid
      · cases valid

theorem rateLimitRetryAt_withinDelay (headers : List (Text × Text)) {now : Time}
    (range : now.milliseconds + MAX_RATE_LIMIT_DELAY_MS ≤ MAX_TIME) :
    WithinDelay now (rateLimitRetryAt headers (some now)) := by
  unfold rateLimitRetryAt
  split
  · rename_i valid
    exact validRetryAfter_withinDelay range valid
  · split
    · rename_i found
      split at found
      · exact validRateLimitReset_withinDelay found
      · cases found
    · exact later_withinDelay range (by decide) (by decide)

end GitMate.Collection

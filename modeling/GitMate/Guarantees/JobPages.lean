import GitMate.Guarantees.Encoding
import GitMate.Library.Paging
import GitMate.Service.JobListing
import Mathlib.Data.List.Lex
import Mathlib.Data.Prod.Lex

namespace GitMate.Listing

open JavaScript Relational

/-!
# Listing a user's jobs page by page

A cursor is read back as the creation date and the id it was made from, so that
following the cursors of the API is following the keys of a listing.  The
listing of a table that does not change shows every wanted job once, whatever
the limit; jobs inserted meanwhile are shown or not, but take no other job's
place.
-/

/-! ## The cursor is read back -/

theorem isPlain_of_ascii {code : CodeUnit} (printable : 0x20 ≤ code.toNat)
    (ascii : code.toNat < 0x80) (notQuotation : code ≠ QUOTATION_MARK)
    (notSolidus : code ≠ REVERSE_SOLIDUS) : IsPlain code := by
  have surrogate : forall first last : CodeUnit, 0x80 ≤ first.toNat ->
      between first last code = false := by
    intro first last far
    rw [← Bool.not_eq_true, Wire.between_iff]
    omega
  refine ⟨fun small => ?_, notQuotation, notSolidus, surrogate _ _ (by decide),
    surrogate _ _ (by decide)⟩
  have less := UInt16.lt_iff_toNat_lt.1 small
  change code.toNat < 0x20 at less
  omega

/-- A text that travels as it is. -/
def IsPlainAscii (value : Text) : Prop :=
  forall code, code ∈ value -> IsPlain code ∧ code < 0x80

theorem isPlainAscii_toISOString (time : Time) : IsPlainAscii time.toISOString := by
  intro code member
  rcases plain_toISOString time member with digit | mark
  · have range := Wire.between_iff.1 digit
    change 0x30 ≤ code.toNat ∧ code.toNat ≤ 0x39 at range
    refine ⟨isPlain_of_ascii (by omega) (by omega) (fun same => ?_) (fun same => ?_), ?_⟩
    · rw [same] at digit
      exact absurd digit (by decide)
    · rw [same] at digit
      exact absurd digit (by decide)
    · exact UInt16.lt_iff_toNat_lt.2 (lt_of_le_of_lt range.2 (by decide))
  · simp only [List.mem_cons, List.not_mem_nil, or_false] at mark
    rcases mark with rfl | rfl | rfl | rfl | rfl | rfl <;>
      exact ⟨isPlain_of_ascii (by decide) (by decide) (by decide) (by decide), by decide⟩

theorem isPlainAscii_id (id : JobUuid) : IsPlainAscii id.text := by
  have inside : forall accepts, accepts ∈ CURSOR_ID_PATTERN -> forall code,
      accepts code = true -> Wire.InIdentifier code := by
    intro accepts member code accepted
    have either : accepts = Wire.anyHex ∨ accepts = Wire.isHyphen := by
      simp only [CURSOR_ID_PATTERN, List.mem_append, List.mem_cons, List.mem_replicate] at member
      grind
    rcases either with rfl | rfl
    · exact Wire.anyHex_inIdentifier accepted
    · rw [beq_iff_eq.1 accepted]
      decide
  intro code member
  have within := Pattern.forall_of_test inside id.shaped code member
  exact ⟨within.isPlain, UInt16.lt_iff_toNat_lt.2 (lt_of_le_of_lt within.2.1 (by decide))⟩

def payloadEntry (key value : Text) (plainKey : IsPlainAscii key) (plain : IsPlainAscii value) :
    Entry where
  key := key
  value := .string value
  rendered := quote value
  plain := fun code member => (plainKey code member).1
  renders := renders_quote fun code member => (plain code member).1

theorem quote_ascii {value : Text} (plain : IsPlainAscii value) :
    forall code, code ∈ quote value -> code < 0x80 := by
  intro code member
  rw [quote, escapeAll_plain fun code member => (plain code member).1] at member
  simp only [List.cons_append, List.mem_cons, List.mem_append, List.not_mem_nil, or_false] at member
  rcases member with rfl | inside | rfl
  · decide
  · exact (plain code inside).2
  · decide

theorem isPlainAscii_keys : IsPlainAscii (text "createdAt") ∧ IsPlainAscii (text "id") := by
  have checked : (text "createdAt" ++ text "id").all (fun code =>
      Nat.ble 0x20 code.toNat && Nat.blt code.toNat 0x80 && code != QUOTATION_MARK &&
        code != REVERSE_SOLIDUS) = true := by rfl
  have plain : forall code, code ∈ text "createdAt" ++ text "id" -> IsPlain code ∧ code < 0x80 := by
    intro code member
    have each := List.all_eq_true.1 checked code member
    simp only [Bool.and_eq_true, Nat.ble_eq, Nat.blt_eq, bne_iff_ne] at each
    rcases each with ⟨⟨⟨printable, ascii⟩, noQuote⟩, noSolidus⟩
    exact ⟨isPlain_of_ascii printable ascii noQuote noSolidus, UInt16.lt_iff_toNat_lt.2 ascii⟩
  exact ⟨fun code member => plain code (List.mem_append_left _ member),
    fun code member => plain code (List.mem_append_right _ member)⟩

/-- Two properties under names keep their order. -/
theorem ownProperties_payload (createdAt id : JsonValue) :
    ownProperties [(text "createdAt", createdAt), (text "id", id)] =
      [(text "createdAt", createdAt), (text "id", id)] := by
  have different : text "id" ≠ text "createdAt" := by decide
  have names : arrayIndex (text "createdAt") = none ∧ arrayIndex (text "id") = none := by decide
  have defined : [(text "createdAt", createdAt), (text "id", id)].foldl defineProperty [] =
      [(text "createdAt", createdAt), (text "id", id)] := by
    simp only [List.foldl_cons, List.foldl_nil, defineProperty, List.map_nil, List.not_mem_nil,
      if_false, List.nil_append, List.map_cons, List.mem_singleton, different, List.cons_append]
  unfold ownProperties
  simp only [defined, List.filter_cons, List.filter_nil, names.1, names.2, Option.isSome_none,
    Option.isNone_none, Bool.false_eq_true, if_false, if_true, List.mergeSort_nil, List.nil_append]

/-- The payload of a cursor, as a value and as a text. -/
theorem parse_payload {createdAt id : Text} (plainDate : IsPlainAscii createdAt)
    (plainId : IsPlainAscii id) :
    JsonValue.parse (decodeUtf8 (utf8 (JsonValue.stringify (.object
      [(text "createdAt", .string createdAt), (text "id", .string id)])))) =
      some (.object [(text "createdAt", .string createdAt), (text "id", .string id)]) := by
  have rendered : JsonValue.stringify (.object
      [(text "createdAt", .string createdAt), (text "id", .string id)]) =
      stringifyObject ([payloadEntry (text "createdAt") createdAt isPlainAscii_keys.1 plainDate,
        payloadEntry (text "id") id isPlainAscii_keys.2 plainId].map Entry.source) := rfl
  have ascii : forall code, code ∈ JsonValue.stringify (.object
      [(text "createdAt", .string createdAt), (text "id", .string id)]) -> code < 0x80 := by
    intro code member
    rw [rendered] at member
    simp only [List.map_cons, List.map_nil, Entry.source, payloadEntry, stringifyObject,
      stringifyMembers, List.mem_append, List.mem_cons, List.not_mem_nil, or_false,
      List.cons_append] at member
    rcases member with rfl | ((key | rfl | value) | rfl | key | rfl | value) | rfl
    · decide
    · exact quote_ascii isPlainAscii_keys.1 code key
    · decide
    · exact quote_ascii plainDate code value
    · decide
    · exact quote_ascii isPlainAscii_keys.2 code key
    · decide
    · exact quote_ascii plainId code value
    · decide
  rw [decodeUtf8_utf8 ascii, rendered]
  unfold JsonValue.parse
  rw [List.map_cons, ← List.map_cons, parse_stringifyObject, Option.map_some]
  exact congrArg (fun members => some (JsonValue.object members)) (ownProperties_payload _ _)

/-- A cursor leads back to where it was made. -/
theorem decodeCursor_encodeCursor (other : Text -> Date) (cursor : AnalysisJobCursor) :
    decodeCursor other (encodeCursor cursor) = .ok cursor := by
  have payload : cursorPayload (.object [(text "createdAt", .string cursor.createdAt.toISOString),
      (text "id", .string cursor.id.text)]) = some (cursor.createdAt.toISOString, cursor.id) :=
    dif_pos cursor.id.shaped
  unfold decodeCursor encodeCursor
  rw [decodeBase64_base64url, parse_payload (isPlainAscii_toISOString cursor.createdAt)
    (isPlainAscii_id cursor.id), Option.bind_some, payload]
  simp only
  rw [Date.parse_toISOString]

/-- No cursor is the empty text, which would count as none. -/
theorem encodeCursor_ne_nil (cursor : AnalysisJobCursor) : encodeCursor cursor ≠ [] := by
  intro empty
  have back := decodeCursor_encodeCursor (fun _ => none) cursor
  rw [empty] at back
  cases back

/-! ## One page of the API -/

/-- What the listing is ordered by. -/
abbrev Key : Type := Time ×ₗ JobUuid

def keyOf (job : AnalysisJobApiRecord) : Key := toLex (job.createdAt, job.id)

/-- The cursor of a key. -/
def cursorOf (key : Key) : AnalysisJobCursor := ⟨(ofLex key).1, (ofLex key).2⟩

theorem readCursor_encodeCursor (other : Text -> Date) (cursor : Option Key) :
    readCursor other (cursor.map (encodeCursor ∘ cursorOf)) = .ok (cursor.map cursorOf) := by
  cases cursor with
  | none => rfl
  | some key =>
      rw [Option.map_some]
      cases encoded : (encodeCursor ∘ cursorOf) key with
      | nil => exact absurd encoded (encodeCursor_ne_nil _)
      | cons code rest =>
          have decoded := decodeCursor_encodeCursor other (cursorOf key)
          rw [Function.comp_apply] at encoded
          rw [encoded] at decoded
          exact congrArg (Except.map some) decoded

/-- The jobs that the filters of a query select. -/
def wantedJobs (jobs : Jobs) (userId : UserId) (repositoryId : Option RepositoryId)
    (status : Option AnalysisJobStatus) : List AnalysisJobApiRecord :=
  jobs.rows.filter (isWanted ⟨userId, repositoryId, status, 0, none⟩)

theorem nodup_ids (jobs : Jobs) (userId : UserId) (repositoryId : Option RepositoryId)
    (status : Option AnalysisJobStatus) :
    ((wantedJobs jobs userId repositoryId status).map AnalysisJobApiRecord.id).Nodup :=
  jobs.distinct.sublist (List.filter_sublist.map _)

/-- Jobs with different ids have different keys. -/
theorem nodup_keys {jobs : List AnalysisJobApiRecord}
    (ids : (jobs.map AnalysisJobApiRecord.id).Nodup) : (jobs.map keyOf).Nodup := by
  have split : jobs.map AnalysisJobApiRecord.id =
      (jobs.map keyOf).map fun key => (ofLex key).2 := by
    rw [List.map_map]
    rfl
  rw [split] at ids
  exact ids.of_map _

/-- The wanted jobs are still there and wanted. -/
def Stays (first later : List AnalysisJobApiRecord) : Prop :=
  forall job, job ∈ first ->
    Exists fun kept => kept ∈ later ∧ kept.id = job.id ∧ kept.createdAt = job.createdAt

/-- A job under the id of one that was there at first has its key. -/
theorem keyOf_eq_of_id {lists : Nat -> List AnalysisJobApiRecord}
    (ids : forall count, ((lists count).map AnalysisJobApiRecord.id).Nodup)
    (stays : forall count, Stays (lists 0) (lists count)) {count : Nat}
    {item job : AnalysisJobApiRecord} (among : item ∈ lists count) (wanted : job ∈ lists 0)
    (same : item.id = job.id) : keyOf item = keyOf job := by
  rcases stays count job wanted with ⟨kept, present, sameId, sameDate⟩
  have equal : item = kept :=
    List.inj_on_of_nodup_map (ids count) among present (same.trans sameId.symm)
  unfold keyOf
  rw [equal, sameId, sameDate]

theorem jobIds_toDto (jobs : List AnalysisJobApiRecord) :
    (jobs.map toDto).map AnalysisJobResponseDto.jobId =
      (jobs.map AnalysisJobApiRecord.id).map JobUuid.text := by
  rw [List.map_map, List.map_map]
  rfl

theorem JobUuid.text_injective : Function.Injective JobUuid.text := by
  intro first second same
  cases first
  cases second
  cases same
  rfl

section Pages

variable [LinearOrder JobUuid]

theorem isBehind_eq (cursor : Option Key) (job : AnalysisJobApiRecord) :
    isBehind (cursor.map cursorOf) job = Paging.isBelow keyOf cursor job := by
  cases cursor with
  | none => rfl
  | some key =>
      rw [Bool.eq_iff_iff]
      simp only [isBehind, Paging.isBelow, Option.map_some, Option.all_some, Bool.or_eq_true,
        Bool.and_eq_true, decide_eq_true_eq, Prod.Lex.lt_iff, keyOf, cursorOf, ofLex_toLex]
      exact or_congr Iff.rfl (and_congr_left fun _ => Time.milliseconds_injective.eq_iff)

theorem comesFirst_eq (first second : AnalysisJobApiRecord) :
    comesFirst first second = decide (keyOf second ≤ keyOf first) := by
  rw [Bool.eq_iff_iff]
  simp only [comesFirst, Bool.or_eq_true, Bool.and_eq_true, decide_eq_true_eq, Prod.Lex.le_iff,
    keyOf, ofLex_toLex]
  exact or_congr Iff.rfl (and_congr_left fun _ => Time.milliseconds_injective.eq_iff)

variable {other : Text -> Date} {userId : UserId} {repositoryId : Option RepositoryId}
  {status : Option AnalysisJobStatus} {limit : Nat}

theorem listOwned_eq (jobs : Jobs) (cursor : Option Key) :
    listOwned jobs ⟨userId, repositoryId, status, limit, cursor.map cursorOf⟩ =
      (Paging.descending keyOf ((wantedJobs jobs userId repositoryId status).filter
        (Paging.isBelow keyOf cursor))).take (limit + 1) := by
  unfold listOwned Paging.descending wantedJobs
  rw [List.filter_filter, funext₂ comesFirst_eq]
  simp only [isBehind_eq, Bool.and_comm]
  rfl

/-- A response is a page of the listing. -/
theorem list_eq (jobs : Jobs) (cursor : Option Key) :
    list other jobs userId ⟨repositoryId, status, limit, cursor.map (encodeCursor ∘ cursorOf)⟩ =
      .ok (let page := Paging.page keyOf limit (wantedJobs jobs userId repositoryId status) cursor
        ⟨page.items.map toDto, page.next.map (encodeCursor ∘ cursorOf)⟩) := by
  unfold list
  rw [readCursor_encodeCursor]
  simp only [bind, Except.bind]
  rw [listOwned_eq]
  unfold Paging.page
  simp only
  split
  · rw [Option.map_map]
    rfl
  · rfl

/-! ## The whole listing -/

variable (other userId repositoryId status limit) in
/-- Request the pages one after another; the table may change between two
requests.  Without fuel the last page has not been reached. -/
def listAll (contents : Nat -> Jobs) :
    Nat -> Nat -> Option Text -> Except AppError (Option (List AnalysisJobResponseDto))
  | 0, _, _ => .ok none
  | fuel + 1, count, cursor => do
      let response <- list other (contents count) userId ⟨repositoryId, status, limit, cursor⟩
      match response.nextCursor with
      | none => pure (some response.items)
      | some next => do
          let later <- listAll contents fuel (count + 1) (some next)
          pure (later.map (response.items ++ ·))

/-- Following the cursors of the API follows the keys of the listing. -/
theorem listAll_eq (contents : Nat -> Jobs) (fuel count : Nat) (cursor : Option Key) :
    listAll other userId repositoryId status limit contents fuel count
        (cursor.map (encodeCursor ∘ cursorOf)) =
      .ok ((Paging.follow keyOf limit
        (fun count => wantedJobs (contents count) userId repositoryId status) fuel count
        cursor).map (List.map toDto)) := by
  induction fuel generalizing count cursor with
  | zero => rfl
  | succ fuel inductionHypothesis =>
      unfold listAll Paging.follow
      rw [list_eq]
      simp only [bind, Except.bind]
      cases next : (Paging.page keyOf limit
          (wantedJobs (contents count) userId repositoryId status) cursor).next with
      | none => rfl
      | some key =>
          have onward := inductionHypothesis (count + 1) (some key)
          simp only [Option.map_some] at onward ⊢
          rw [onward]
          cases Paging.follow keyOf limit
              (fun count => wantedJobs (contents count) userId repositoryId status) fuel
              (count + 1) (some key) with
          | none => rfl
          | some later => exact congrArg (fun items => Except.ok (some items)) List.map_append.symm

/-! ## Jobs that come while the listing is read -/

/-- Whatever was not there before is newer. -/
def OnlyNewer (first later : List AnalysisJobApiRecord) : Prop :=
  forall job, job ∈ later -> (Exists fun old => old ∈ first ∧ old.id = job.id) ∨
    forall old, old ∈ first -> keyOf old < keyOf job

/-- The newest first, and jobs of one date by their ids. -/
def NewestFirst (jobs : List AnalysisJobApiRecord) : Prop :=
  jobs.Pairwise fun first second => second.createdAt < first.createdAt ∨
    second.createdAt = first.createdAt ∧ second.id < first.id

theorem newestFirst_iff {jobs : List AnalysisJobApiRecord} :
    NewestFirst jobs ↔ (jobs.map keyOf).Pairwise (· > ·) := by
  have order : forall {first second : AnalysisJobApiRecord},
      (second.createdAt < first.createdAt ∨
        second.createdAt = first.createdAt ∧ second.id < first.id) ↔ keyOf first > keyOf second :=
    fun {first second} => (@Prod.Lex.lt_iff Time JobUuid _ _ (keyOf second) (keyOf first)).symm
  rw [List.pairwise_map]
  exact ⟨fun sorted => sorted.imp order.1, fun sorted => sorted.imp order.2⟩

section Inserted

variable {lists : Nat -> List AnalysisJobApiRecord} (positive : 0 < limit)
  (ids : forall count, ((lists count).map AnalysisJobApiRecord.id).Nodup)
  (stays : forall count, Stays (lists 0) (lists count))

include positive ids stays

/-- A job that stays is shown once, whatever is inserted. -/
theorem count_shown {fuel : Nat} {shown : List AnalysisJobApiRecord}
    (ended : Paging.follow keyOf limit lists fuel 0 none = some shown)
    {job : AnalysisJobApiRecord} (wanted : job ∈ lists 0) :
    (shown.map AnalysisJobApiRecord.id).count job.id = 1 := by
  rcases Paging.follow_spec positive (fun count => nodup_keys (ids count)) ended with
    ⟨sorted, origin, complete⟩
  have nodup : (shown.map keyOf).Nodup := sorted.imp fun above => ne_of_gt above
  have member : keyOf job ∈ shown.map keyOf := complete (keyOf job) rfl fun later _ => by
    rcases stays later job wanted with ⟨kept, present, sameId, sameDate⟩
    exact ⟨kept, present, keyOf_eq_of_id ids stays present wanted sameId⟩
  have counted : (shown.map AnalysisJobApiRecord.id).count job.id =
      (shown.map keyOf).count (keyOf job) := by
    unfold List.count
    rw [List.countP_map, List.countP_map]
    refine List.countP_congr fun item among => ?_
    rcases (origin item among).2 with ⟨moment, _, present⟩
    simp only [Function.comp_apply, beq_iff_eq]
    exact ⟨keyOf_eq_of_id ids stays present wanted,
      fun same => congrArg (fun key => (ofLex key).2) same⟩
  rw [counted]
  exact List.count_eq_one_of_mem nodup member

/-- With insertions of newer jobs only, the listing ends, and it shows the jobs
that were there at first. -/
theorem shown_of_onlyNewer (newer : forall count, OnlyNewer (lists 0) (lists count)) {fuel : Nat}
    (enough : (lists 0).length < fuel) :
    Exists fun shown => Paging.follow keyOf limit lists fuel 0 none = some shown ∧
      shown.map keyOf = (Paging.descending keyOf (lists 0)).map keyOf := by
  have distinct := fun count => nodup_keys (ids count)
  have closed : forall count item, item ∈ lists count -> forall bound,
      bound ∈ ((lists 0).map keyOf).toFinset -> keyOf item < bound ->
      keyOf item ∈ ((lists 0).map keyOf).toFinset := by
    intro count item among bound first below
    rcases newer count item among with ⟨old, wanted, same⟩ | above
    · rw [keyOf_eq_of_id ids stays among wanted same.symm]
      exact List.mem_toFinset.2 (List.mem_map_of_mem wanted)
    · rcases List.mem_map.1 (List.mem_toFinset.1 first) with ⟨old, wanted, rfl⟩
      exact absurd below (lt_asymm (above old wanted))
  have bounded : (((lists 0).map keyOf).toFinset.filter fun wanted =>
      Paging.isBelow id none wanted = true).card < fuel := by
    refine lt_of_le_of_lt ((Finset.card_filter_le _ _).trans (List.toFinset_card_le _)) ?_
    rw [List.length_map]
    exact enough
  rcases Paging.follow_ends positive distinct _ closed
    (fun item member _ => List.mem_toFinset.2 (List.mem_map_of_mem member)) bounded with
    ⟨shown, ended, inside⟩
  rcases Paging.follow_spec positive distinct ended with ⟨sorted, _, complete⟩
  refine ⟨shown, ended, @Paging.eq_of_strict Key Key _ id _ _ ?_ ?_ fun key => ?_⟩
  · rw [List.map_id]
    exact sorted
  · rw [List.map_id]
    exact Paging.strict_descending (distinct 0)
  · rw [((Paging.perm_descending (lists 0)).map keyOf).mem_iff]
    constructor
    · intro member
      rcases List.mem_map.1 member with ⟨item, among, rfl⟩
      exact List.mem_toFinset.1 (inside item among)
    · intro member
      rcases List.mem_map.1 member with ⟨job, wanted, rfl⟩
      refine complete (keyOf job) rfl fun later _ => ?_
      rcases stays later job wanted with ⟨kept, present, sameId, _⟩
      exact ⟨kept, present, keyOf_eq_of_id ids stays present wanted sameId⟩

end Inserted

/-- Following the cursors from the first page shows every wanted job once,
newest first and whatever the limit; and jobs that are inserted meanwhile make
it neither miss nor repeat one that was there. -/
theorem listing_visits_once (other : Text -> Date) (userId : UserId)
    (repositoryId : Option RepositoryId) (status : Option AnalysisJobStatus) :
    (forall jobs : Jobs, Exists fun visited =>
      visited.Perm (wantedJobs jobs userId repositoryId status) ∧ NewestFirst visited ∧
        forall limit fuel, 0 < limit -> visited.length < fuel ->
          listAll other userId repositoryId status limit (fun _ => jobs) fuel 0 none =
            .ok (some (visited.map toDto))) ∧
    forall (contents : Nat -> Jobs) (limit : Nat), 0 < limit ->
      (forall count, Stays (wantedJobs (contents 0) userId repositoryId status)
        (wantedJobs (contents count) userId repositoryId status)) ->
      (forall fuel items,
        listAll other userId repositoryId status limit contents fuel 0 none = .ok (some items) ->
        forall job, job ∈ wantedJobs (contents 0) userId repositoryId status ->
          (items.map AnalysisJobResponseDto.jobId).count job.id.text = 1) ∧
      ((forall count, OnlyNewer (wantedJobs (contents 0) userId repositoryId status)
          (wantedJobs (contents count) userId repositoryId status)) ->
        Exists fun visited =>
          visited.Perm (wantedJobs (contents 0) userId repositoryId status) ∧
            NewestFirst visited ∧ forall fuel, visited.length < fuel -> Exists fun items =>
              listAll other userId repositoryId status limit contents fuel 0 none =
                .ok (some items) ∧
              items.map AnalysisJobResponseDto.jobId = visited.map fun job => job.id.text) := by
  have sorted : forall jobs : Jobs,
      NewestFirst (Paging.descending keyOf (wantedJobs jobs userId repositoryId status)) :=
    fun jobs => newestFirst_iff.2 (Paging.strict_descending (nodup_keys (nodup_ids jobs _ _ _)))
  have measured : forall jobs : Jobs,
      (Paging.descending keyOf (wantedJobs jobs userId repositoryId status)).length =
        (wantedJobs jobs userId repositoryId status).length :=
    fun jobs => (Paging.perm_descending _).length_eq
  refine ⟨fun jobs => ⟨_, Paging.perm_descending _, sorted jobs, ?_⟩, ?_⟩
  · intro limit fuel positive enough
    have keys := nodup_keys (nodup_ids jobs userId repositoryId status)
    have shown := @Paging.follow_constant AnalysisJobApiRecord Key _ keyOf limit
      (fun _ => wantedJobs jobs userId repositoryId status) positive (fun _ => keys) _
      (fun _ => rfl) fuel (measured jobs ▸ enough)
    have listed := @listAll_eq _ other userId repositoryId status limit (fun _ => jobs) fuel 0 none
    rw [shown] at listed
    exact listed
  · intro contents limit positive stays
    have ids := fun count => nodup_ids (contents count) userId repositoryId status
    have listed := fun fuel =>
      @listAll_eq _ other userId repositoryId status limit contents fuel 0 none
    refine ⟨fun fuel items ended job wanted => ?_, fun newer =>
      ⟨_, Paging.perm_descending _, sorted (contents 0), fun fuel enough => ?_⟩⟩
    · have whole := Except.ok.inj ((listed fuel).symm.trans ended)
      rcases Option.map_eq_some_iff.1 whole with ⟨shown, followed, rfl⟩
      rw [jobIds_toDto, List.count_map_of_injective _ _ JobUuid.text_injective]
      exact count_shown positive ids stays followed wanted
    · rcases shown_of_onlyNewer positive ids stays newer (measured (contents 0) ▸ enough) with
        ⟨shown, followed, same⟩
      have ended := listed fuel
      rw [followed] at ended
      refine ⟨_, ended, ?_⟩
      rw [jobIds_toDto]
      have ids := congrArg (List.map fun key : Key => (ofLex key).2.text) same
      rw [List.map_map, List.map_map] at ids
      rw [List.map_map]
      exact ids

end Pages

/-! ## Two jobs of one date -/

/-- Ids by their code units. -/
@[reducible] def unitOrder : LinearOrder JobUuid :=
  LinearOrder.lift' (fun id => id.text.map UInt16.toNat) fun _ _ same =>
    JobUuid.text_injective (List.map_injective_iff.2 (fun _ _ => UInt16.toNat.inj) same)

def exampleId (last : String)
    (shaped : CURSOR_ID_PATTERN.test
      (text ("8fe6a55c-956a-4d8f-985f-fcf2bc72e34" ++ last)) = true) : JobUuid :=
  ⟨text ("8fe6a55c-956a-4d8f-985f-fcf2bc72e34" ++ last), shaped⟩

def exampleDate (milliseconds : Int) (inRange : milliseconds.natAbs ≤ MAX_TIME) : Time :=
  ⟨milliseconds, inRange⟩

def exampleJob (id : JobUuid) (createdAt : Time) : AnalysisJobApiRecord where
  id := id
  status := .queued
  stage := some .waiting
  progress := 0
  userId := 7
  repositoryId := 17
  attemptCount := 0
  estimatedTokens := none
  reservedTokens := none
  totalTokens := none
  lastErrorCode := none
  lastErrorMessage := none
  errorRetryable := none
  createdAt := createdAt
  startedAt := none
  completedAt := none
  updatedAt := createdAt
  repository := ⟨17, text "123", text "octocat/example"⟩
  report := none

def earlierJobs : List AnalysisJobApiRecord :=
  [exampleJob (exampleId "a" (by decide)) (exampleDate 1786838400000 (by decide)),
    exampleJob (exampleId "b" (by decide)) (exampleDate 1786838400000 (by decide))]

def insertedJob : AnalysisJobApiRecord :=
  exampleJob (exampleId "c" (by decide)) (exampleDate 1786838400001 (by decide))

/-- A newer job is inserted before the second request. -/
def growingJobs (count : Nat) : Jobs :=
  if count = 0 then ⟨earlierJobs, by decide⟩ else ⟨earlierJobs ++ [insertedJob], by decide⟩

theorem wantedJobs_growingJobs (count : Nat) : wantedJobs (growingJobs (count + 1)) 7 none none =
    wantedJobs (growingJobs 0) 7 none none ++ [insertedJob] := rfl

theorem stays_growingJobs (count : Nat) : Stays (wantedJobs (growingJobs 0) 7 none none)
    (wantedJobs (growingJobs count) 7 none none) := by
  intro job wanted
  cases count with
  | zero => exact ⟨job, wanted, rfl, rfl⟩
  | succ count => exact ⟨job, List.mem_append_left _ wanted, rfl, rfl⟩

theorem onlyNewer_growingJobs (count : Nat) :
    @OnlyNewer unitOrder (wantedJobs (growingJobs 0) 7 none none)
      (wantedJobs (growingJobs count) 7 none none) := by
  intro job present
  cases count with
  | zero => exact .inl ⟨job, present, rfl⟩
  | succ count =>
      rw [wantedJobs_growingJobs] at present
      rcases List.mem_append.1 present with before | inserted
      · exact .inl ⟨job, before, rfl⟩
      · refine .inr fun old wanted => ?_
        have dates : forall old, old ∈ earlierJobs ->
            old.createdAt.milliseconds < insertedJob.createdAt.milliseconds := by decide
        rw [List.mem_singleton.1 inserted]
        exact (@Prod.Lex.lt_iff Time JobUuid _ unitOrder.toLT _ _).2 (.inl (dates old wanted))

theorem listing_visits_once_growing : Exists fun visited => visited.Perm earlierJobs ∧
    @NewestFirst unitOrder visited ∧ Exists fun items =>
      @listAll unitOrder (fun _ => none) 7 none none 1 growingJobs 3 0 none = .ok (some items) ∧
        items.map AnalysisJobResponseDto.jobId = visited.map fun job => job.id.text := by
  rcases ((@listing_visits_once unitOrder (fun _ => none) 7 none none).2 growingJobs 1 (by decide)
    stays_growingJobs).2 onlyNewer_growingJobs with ⟨visited, perm, sorted, shown⟩
  exact ⟨visited, perm, sorted, shown 3 (perm.length_eq ▸ (by decide))⟩

end GitMate.Listing

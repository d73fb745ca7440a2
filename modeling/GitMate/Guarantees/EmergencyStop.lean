import GitMate.Scripts.DisableAsyncAnalysis

namespace GitMate.Scripts

open Interleaving JavaScript

/-!
# The emergency stop touches only the switches

Whatever the command line answers, the script submits at most one update, after
both of its questions have been answered and every check has passed.  The
submitted template is the deployed one with five nodes set: blanking these
nodes makes the two equal.  On the submitted template the search finds the same
nodes, which are off already, so that a second stop submits nothing.

Nodes of different resources do not interfere, so the order of the assignments
does not matter, and an earlier assignment to the same nodes is forgotten.
-/

/-! ## Assigning nodes -/

/-- One node of the template. -/
def setNode (node : Node) (template : JsonValue) : JsonValue :=
  JsonValue.modifyPath node.place (fun _ => node.value) template

theorem assign_cons (node : Node) (rest : List Node) (template : JsonValue) :
    assign (node :: rest) template = assign rest (setNode node template) := rfl

theorem setNode_comm {first second : Node} (different : first.id ≠ second.id)
    (template : JsonValue) :
    setNode first (setNode second template) = setNode second (setNode first template) := by
  unfold setNode Node.place
  simp only [JsonValue.modifyPath]
  rw [JsonValue.modify_modify, JsonValue.modify_modify]
  exact JsonValue.modify_congr
    (fun resources => JsonValue.modify_comm different.symm _ _ resources) _ template

theorem setNode_setNode {first second : Node} (sameId : second.id = first.id)
    (samePath : second.path = first.path) (template : JsonValue) :
    setNode second (setNode first template) = setNode second template := by
  unfold setNode Node.place
  rw [sameId, samePath]
  exact JsonValue.modifyPath_const _ _ _ template

theorem setNode_assign {node : Node} {nodes : List Node} (apart : node.id ∉ nodes.map Node.id)
    (template : JsonValue) :
    setNode node (assign nodes template) = assign nodes (setNode node template) := by
  induction nodes generalizing template with
  | nil => rfl
  | cons first rest inductionHypothesis =>
      rw [List.map_cons, List.mem_cons, not_or] at apart
      rw [assign_cons, assign_cons, inductionHypothesis apart.2, setNode_comm apart.1]

/-- An assignment to the same nodes hides an earlier one. -/
theorem assign_assign {nodes finals : List Node}
    (same : List.Forall₂ (fun node final => final.id = node.id ∧ final.path = node.path)
      nodes finals)
    (nodup : (nodes.map Node.id).Nodup) (template : JsonValue) :
    assign finals (assign nodes template) = assign finals template := by
  induction same generalizing template with
  | nil => rfl
  | @cons node final nodes finals here _ inductionHypothesis =>
      rw [List.map_cons, List.nodup_cons] at nodup
      have apart : final.id ∉ nodes.map Node.id := here.1 ▸ nodup.1
      rw [assign_cons, assign_cons, setNode_assign apart, inductionHypothesis nodup.2,
        setNode_setNode here.1 here.2, assign_cons]

/-! ## The resources of the changed template -/

/-- What the assignments do to the resource under an id. -/
def changeOf (nodes : List Node) (id : Text) (resource : JsonValue) : JsonValue :=
  nodes.foldl (fun resource node =>
    if node.id = id then JsonValue.modifyPath node.path (fun _ => node.value) resource
    else resource) resource

/-- The resources are no text. -/
def HasMutableResources (template : JsonValue) : Prop :=
  forall resources, template.get (text "Resources") = some resources -> resources.IsMutable

theorem get_setNode (node : Node) (template : JsonValue) :
    (setNode node template).get (text "Resources") =
      (template.get (text "Resources")).map fun resources =>
        resources.modify node.id (JsonValue.modifyPath node.path fun _ => node.value) :=
  JsonValue.get_modify_map (by decide) _ template

theorem resourcesOf_setNode (node : Node) {template : JsonValue}
    (isMutable : HasMutableResources template) :
    HasMutableResources (setNode node template) ∧
      resourcesOf (setNode node template) = (resourcesOf template).map fun entry =>
        (entry.1, if node.id = entry.1 then
          JsonValue.modifyPath node.path (fun _ => node.value) entry.2 else entry.2) := by
  unfold HasMutableResources resourcesOf
  rw [get_setNode]
  cases found : template.get (text "Resources") with
  | none => exact ⟨nofun, rfl⟩
  | some resources =>
      have changes := isMutable resources found
      refine ⟨fun changed same => ?_, ?_⟩
      · cases same
        exact JsonValue.isMutable_modify changes _ _
      · simp only [Option.map_some, Option.getD_some]
        rw [JsonValue.entries_modify changes]
        refine List.map_congr_left fun entry _ => ?_
        simp only [eq_comm]

theorem resourcesOf_assign (nodes : List Node) {template : JsonValue}
    (isMutable : HasMutableResources template) :
    resourcesOf (assign nodes template) =
      (resourcesOf template).map fun entry => (entry.1, changeOf nodes entry.1 entry.2) := by
  induction nodes generalizing template with
  | nil => exact (List.map_id _).symm
  | cons node rest inductionHypothesis =>
      have first := resourcesOf_setNode node isMutable
      rw [assign_cons, inductionHypothesis first.1, first.2, List.map_map]
      rfl

/-- Everything beside the resources stays. -/
theorem get_assign_other {key : Text} (different : key ≠ text "Resources") (nodes : List Node)
    (template : JsonValue) : (assign nodes template).get key = template.get key := by
  induction nodes generalizing template with
  | nil => rfl
  | cons node rest inductionHypothesis =>
      rw [assign_cons, inductionHypothesis]
      exact JsonValue.get_modify_other different _ template

/-- With different ids, a resource is changed by its own node alone. -/
theorem changeOf_own {nodes : List Node} {node : Node} (member : node ∈ nodes)
    (nodup : (nodes.map Node.id).Nodup) (resource : JsonValue) :
    changeOf nodes node.id resource =
      JsonValue.modifyPath node.path (fun _ => node.value) resource := by
  have unchanged : forall (others : List Node) (resource : JsonValue),
      node.id ∉ others.map Node.id -> changeOf others node.id resource = resource := by
    intro others
    induction others with
    | nil => exact fun _ _ => rfl
    | cons other others inductionHypothesis =>
        intro resource apart
        rw [List.map_cons, List.mem_cons, not_or] at apart
        change changeOf others node.id (if other.id = node.id then _ else resource) = resource
        rw [if_neg (fun same => apart.1 same.symm)]
        exact inductionHypothesis resource apart.2
  induction nodes generalizing resource with
  | nil => cases member
  | cons first rest inductionHypothesis =>
      rw [List.map_cons, List.nodup_cons] at nodup
      change changeOf rest node.id (if first.id = node.id then _ else resource) = _
      rcases List.mem_cons.1 member with rfl | later
      · rw [if_pos rfl]
        exact unchanged rest _ nodup.1
      · have apart : first.id ≠ node.id := fun same =>
          nodup.1 (same ▸ List.mem_map.2 ⟨node, later, rfl⟩)
        rw [if_neg apart]
        exact inductionHypothesis later nodup.2 resource

/-! ## The search -/

/-- The resource has the type, and its properties satisfy the predicate. -/
def Satisfies (type : String) (predicate : JsonValue -> Except ScriptError Bool)
    (resource : JsonValue) : Prop :=
  isText (resource.get (text "Type")) (text type) = true ∧
    predicate (propertiesOf resource) = .ok true

theorem required_ok {value : Option JsonValue} {name : String} {found : Option JsonValue}
    (read : required value name = .ok found) : Exists fun present => value = some present ∧
      present ≠ .null ∧ found = present.get (text name) := by
  unfold required at read
  split at read
  · cases read
  · cases read
  · rename_i present notNull
    cases read
    exact ⟨present, rfl, notNull, rfl⟩

theorem required_some {value : JsonValue} (present : value ≠ .null) (name : String) :
    required (some value) name = .ok (value.get (text name)) := by
  unfold required
  split
  · rename_i none
    cases none
  · rename_i null
    exact absurd (Option.some.inj null) present
  · rename_i same
    cases same
    rfl

section Search

variable {type : String} {predicate : JsonValue -> Except ScriptError Bool}

theorem isMatch_iff (resource : JsonValue) :
    isMatch type predicate resource = .ok true ↔ Satisfies type predicate resource := by
  unfold isMatch Satisfies
  by_cases null : resource = .null
  · subst null
    exact iff_of_false nofun fun both => by cases both.1
  · rw [required_some null]
    change (if isText (resource.get (text "Type")) (text type) = true then
      predicate (propertiesOf resource) else Except.ok false) = Except.ok true ↔ _
    split
    · rename_i typeMatches
      exact ⟨fun yes => ⟨typeMatches, yes⟩, fun both => both.2⟩
    · rename_i typeDiffers
      exact iff_of_false nofun fun both => typeDiffers both.1

/-- The matches are the resources that satisfy the predicate. -/
theorem matching_ok {resources found : List Resource}
    (searched : matching type predicate resources = .ok found) (entry : Resource) :
    entry ∈ found ↔ entry ∈ resources ∧ Satisfies type predicate entry.2 := by
  induction resources generalizing found with
  | nil =>
      cases searched
      exact ⟨nofun, fun both => both.1⟩
  | cons first rest inductionHypothesis =>
      unfold matching at searched
      have satisfies := @isMatch_iff type predicate first.2
      cases matched : isMatch type predicate first.2 with
      | error error =>
          rw [matched] at searched
          cases searched
      | ok isMatch =>
          cases searchedRest : matching type predicate rest with
          | error error =>
              rw [matched, searchedRest] at searched
              cases searched
          | ok others =>
              rw [matched, searchedRest] at searched
              rw [matched] at satisfies
              cases searched
              cases isMatch with
              | true =>
                  rw [if_pos rfl, List.mem_cons, inductionHypothesis searchedRest,
                    List.mem_cons, or_and_right]
                  exact or_congr_left ⟨fun same => ⟨same, same ▸ satisfies.1 rfl⟩,
                    fun both => both.1⟩
              | false =>
                  rw [if_neg Bool.false_ne_true, inductionHypothesis searchedRest,
                    List.mem_cons, or_and_right]
                  refine ⟨.inr, fun either => either.resolve_left fun both => ?_⟩
                  cases satisfies.2 (both.1 ▸ both.2)

/-- The only resource that satisfies a condition. -/
def IsOnly (resources : List Resource) (entry : Resource) (satisfies : JsonValue -> Prop) : Prop :=
  entry ∈ resources ∧ satisfies entry.2 ∧
    forall other, other ∈ resources -> satisfies other.2 -> other = entry

theorem find_ok {resources : List Resource} {entry : Resource}
    (found : find type predicate resources = .ok entry) :
    IsOnly resources entry (Satisfies type predicate) := by
  unfold find at found
  cases searched : matching type predicate resources with
  | error error =>
      rw [searched] at found
      cases found
  | ok matches' =>
      rw [searched] at found
      have spec := matching_ok searched
      simp only [bind, Except.bind] at found
      split at found
      · rename_i only
        cases found
        have here := (spec entry).1 List.mem_cons_self
        exact ⟨here.1, here.2, fun other member satisfies =>
          List.mem_singleton.1 ((spec other).2 ⟨member, satisfies⟩)⟩
      · cases found

end Search

/-! ## The search does not look at the switches -/

/-- The properties that lead to a switch. -/
def SWITCHED : List Text := [text "Environment", text "Enabled", text "State"]

/-- The properties agree apart from those that lead to a switch. -/
def AgreeUnswitched (before after : JsonValue) : Prop :=
  forall key, key ∉ SWITCHED -> after.get key = before.get key

/-- The resources look the same to the search. -/
structure SameToSearch (before after : JsonValue) : Prop where
  null : after = .null ↔ before = .null
  type : after.get (text "Type") = before.get (text "Type")
  properties : AgreeUnswitched (propertiesOf before) (propertiesOf after)

theorem SameToSearch.refl (resource : JsonValue) : SameToSearch resource resource :=
  ⟨Iff.rfl, rfl, fun _ _ => rfl⟩

theorem SameToSearch.trans {before middle after : JsonValue} (first : SameToSearch before middle)
    (second : SameToSearch middle after) : SameToSearch before after :=
  ⟨second.null.trans first.null, second.type.trans first.type, fun key other =>
    (second.properties key other).trans (first.properties key other)⟩

theorem modify_eq_null_iff (key : Text) (change : JsonValue -> JsonValue) (value : JsonValue) :
    value.modify key change = .null ↔ value = .null := by
  cases value with
  | null => exact Iff.rfl
  | boolean | number | string | array | object => exact iff_of_false nofun nofun

theorem propertiesOf_modify (key : Text) (change : JsonValue -> JsonValue) (resource : JsonValue) :
    propertiesOf (resource.modify (text "Properties") (JsonValue.modify key change)) =
      (propertiesOf resource).modify key change := by
  unfold propertiesOf
  rw [JsonValue.get_modify_map (by decide)]
  cases found : resource.get (text "Properties") with
  | none => rfl
  | some properties =>
      cases properties with
      | null | boolean | number | string | array | object => rfl

/-- A node below a switched property. -/
def IsSwitch (path : List Text) : Prop :=
  Exists fun key => Exists fun rest => path = text "Properties" :: key :: rest ∧ key ∈ SWITCHED

theorem sameToSearch_modifyPath {path : List Text} (isSwitch : IsSwitch path)
    (change : JsonValue -> JsonValue) (resource : JsonValue) :
    SameToSearch resource (JsonValue.modifyPath path change resource) := by
  rcases isSwitch with ⟨key, rest, rfl, switched⟩
  refine ⟨modify_eq_null_iff _ _ resource, JsonValue.get_modify_other (by decide) _ resource, ?_⟩
  intro other apart
  simp only [JsonValue.modifyPath]
  rw [propertiesOf_modify]
  refine JsonValue.get_modify_other (fun same => apart ?_) _ _
  rw [same]
  exact switched

theorem sameToSearch_changeOf {nodes : List Node}
    (switches : forall node, node ∈ nodes -> IsSwitch node.path) (id : Text)
    (resource : JsonValue) :
    SameToSearch resource (changeOf nodes id resource) := by
  induction nodes generalizing resource with
  | nil => exact .refl resource
  | cons node rest inductionHypothesis =>
      have later := fun resource => inductionHypothesis
        (fun other member => switches other (List.mem_cons_of_mem node member)) resource
      change SameToSearch resource (changeOf rest id (if node.id = id then _ else resource))
      split
      · exact (sameToSearch_modifyPath (switches node List.mem_cons_self) _ resource).trans
          (later _)
      · exact later resource

/-- The predicate looks at other properties only. -/
def Unswitched (predicate : JsonValue -> Except ScriptError Bool) : Prop :=
  forall before after, AgreeUnswitched before after -> predicate after = predicate before

theorem unswitched_true : Unswitched fun _ => .ok true := fun _ _ _ => rfl

theorem unswitched_isFunction (name : Text) : Unswitched (isFunction name) := by
  intro before after agree
  unfold isFunction
  rw [agree _ (by decide)]

theorem unswitched_isQueue (name : Text) : Unswitched (isQueue name) := by
  intro before after agree
  unfold isQueue
  rw [agree _ (by decide), agree _ (by decide)]

theorem unswitched_isMapping (functionId queueId : Text) :
    Unswitched (isMapping functionId queueId) := by
  intro before after agree
  unfold isMapping
  rw [agree _ (by decide), agree _ (by decide)]

theorem unswitched_isSchedule (name functionId : Text) :
    Unswitched (isSchedule name functionId) := by
  intro before after agree
  unfold isSchedule
  rw [agree _ (by decide), agree _ (by decide), agree _ (by decide)]

section Changed

variable {type : String} {predicate : JsonValue -> Except ScriptError Bool}
  {change : Text -> JsonValue -> JsonValue}

/-- The resources after a change that the search does not see. -/
def changed (change : Text -> JsonValue -> JsonValue) (entry : Resource) : Resource :=
  (entry.1, change entry.1 entry.2)

theorem matching_changed (unswitched : Unswitched predicate)
    (same : forall id resource, SameToSearch resource (change id resource))
    (resources : List Resource) :
    matching type predicate (resources.map (changed change)) =
      (matching type predicate resources).map fun found => found.map (changed change) := by
  induction resources with
  | nil => rfl
  | cons first rest inductionHypothesis =>
      have here := same first.1 first.2
      have sameMatch : isMatch type predicate (change first.1 first.2) =
          isMatch type predicate first.2 := by
        unfold isMatch
        rw [unswitched _ _ here.properties]
        by_cases null : first.2 = .null
        · rw [here.null.2 null, null]
        · rw [required_some null, required_some (fun other => null (here.null.1 other)), here.type]
      rw [List.map_cons]
      unfold matching
      rw [changed, sameMatch, inductionHypothesis]
      cases isMatch type predicate first.2 with
      | error error => rfl
      | ok matched =>
          cases matching type predicate rest with
          | error error => rfl
          | ok others => cases matched <;> rfl

theorem find_changed (unswitched : Unswitched predicate)
    (same : forall id resource, SameToSearch resource (change id resource))
    (resources : List Resource) :
    find type predicate (resources.map (changed change)) =
      (find type predicate resources).map (changed change) := by
  unfold find
  rw [matching_changed unswitched same]
  cases matching type predicate resources with
  | error error => rfl
  | ok found =>
      match found with
      | [] => rfl
      | [_] => rfl
      | _ :: _ :: _ => rfl

theorem checkCount_changed {count : Nat}
    (same : forall id resource, SameToSearch resource (change id resource))
    (resources : List Resource) :
    checkCount type count (resources.map (changed change)) = checkCount type count resources := by
  unfold checkCount
  rw [matching_changed unswitched_true same]
  cases matching type (fun _ => .ok true) resources with
  | error error => rfl
  | ok found =>
      change (if (found.map (changed change)).length = count then _ else _) = _
      rw [List.length_map]
      rfl

end Changed

/-! ## What the search has found -/

theorem Except.bind_ok {ε α β : Type} {first : Except ε α} {next : α -> Except ε β} {result : β}
    (succeeded : (first >>= next) = .ok result) :
    Exists fun value => first = .ok value ∧ next value = .ok result := by
  cases first with
  | error error => cases succeeded
  | ok value => exact ⟨value, rfl, succeeded⟩

/-- The resources that the search returns. -/
structure Found where
  api : Resource
  worker : Resource
  reconciler : Resource
  queue : Resource
  mapping : Resource
  schedule : Resource

def Found.switches (found : Found) : Switches :=
  ⟨found.api.1, found.worker.1, found.reconciler.1, found.mapping.1, found.schedule.1⟩

/-- Every search and every check of the script has succeeded. -/
structure Found.Checked (found : Found) (stage : Text) (resources : List Resource) : Prop where
  api : find LAMBDA (isFunction (resourceName stage "api")) resources = .ok found.api
  worker : find LAMBDA (isFunction (resourceName stage "analysis-worker")) resources =
    .ok found.worker
  reconciler : find LAMBDA (isFunction (resourceName stage "analysis-reconciler")) resources =
    .ok found.reconciler
  functions : checkCount LAMBDA 3 resources = .ok ()
  apiFunction : checkFunction found.api.2 = .ok ()
  workerFunction : checkFunction found.worker.2 = .ok ()
  reconcilerFunction : checkFunction found.reconciler.2 = .ok ()
  queue : find QUEUE (isQueue (resourceName stage "analysis.fifo")) resources = .ok found.queue
  mapping : find MAPPING (isMapping found.worker.1 found.queue.1) resources = .ok found.mapping
  mappings : checkCount MAPPING 1 resources = .ok ()
  enabled : isBoolean ((propertiesOf found.mapping.2).get (text "Enabled")) = true
  schedule : find RULE (isSchedule (resourceName stage "analysis-reconciler") found.reconciler.1)
    resources = .ok found.schedule
  state : isAnyOf ((propertiesOf found.schedule.2).get (text "State")) ["ENABLED", "DISABLED"] =
    true

theorem identify_ok {stage : Text} {resources : List Resource} {switches : Switches}
    (identified : identify stage resources = .ok switches) :
    Exists fun found : Found => found.Checked stage resources ∧ switches = found.switches := by
  unfold identify at identified
  rcases Except.bind_ok identified with ⟨api, findApi, identified⟩
  rcases Except.bind_ok identified with ⟨worker, findWorker, identified⟩
  rcases Except.bind_ok identified with ⟨reconciler, findReconciler, identified⟩
  rcases Except.bind_ok identified with ⟨_, functions, identified⟩
  rcases Except.bind_ok identified with ⟨_, apiFunction, identified⟩
  rcases Except.bind_ok identified with ⟨_, workerFunction, identified⟩
  rcases Except.bind_ok identified with ⟨_, reconcilerFunction, identified⟩
  rcases Except.bind_ok identified with ⟨queue, findQueue, identified⟩
  rcases Except.bind_ok identified with ⟨mapping, findMapping, identified⟩
  rcases Except.bind_ok identified with ⟨_, mappings, identified⟩
  split at identified
  · cases identified
  · rename_i enabled
    rcases Except.bind_ok identified with ⟨schedule, findSchedule, identified⟩
    split at identified
    · rename_i state
      cases identified
      exact ⟨⟨api, worker, reconciler, queue, mapping, schedule⟩,
        ⟨findApi, findWorker, findReconciler, functions, apiFunction, workerFunction,
          reconcilerFunction, findQueue, findMapping, mappings, eq_true_of_ne_false enabled,
          findSchedule, state⟩, rfl⟩
    · cases identified

theorem Found.Checked.identify {found : Found} {stage : Text} {resources : List Resource}
    (checked : found.Checked stage resources) :
    identify stage resources = .ok found.switches := by
  unfold Scripts.identify
  rw [checked.api, checked.worker, checked.reconciler, checked.functions]
  simp only [bind, Except.bind]
  rw [checked.apiFunction, checked.workerFunction, checked.reconcilerFunction, checked.queue]
  simp only []
  rw [checked.mapping, checked.mappings]
  simp only []
  rw [if_neg (by rw [checked.enabled]; exact Bool.noConfusion), checked.schedule]
  simp only []
  rw [if_pos checked.state]
  rfl

/-! ## The switches are there -/

theorem get_propertiesOf {key : Text} (isName : JsonValue.IsName key) {resource value : JsonValue} :
    (propertiesOf resource).get key = some value ↔
      resource.getPath [text "Properties", key] = some value := by
  have nothing : forall nested : JsonValue, nested = .object [] ∨ nested = .null ->
      nested.get key = none := by
    rintro nested (rfl | rfl) <;> exact if_neg isName.1
  have last : forall nested : JsonValue, nested.getPath [key] = nested.get key :=
    fun nested => Option.bind_fun_some (nested.get key)
  unfold propertiesOf
  change _ ↔ (resource.get (text "Properties")).bind (JsonValue.getPath [key]) = some value
  cases resource.get (text "Properties") with
  | none => rw [orElse, nothing _ (.inl rfl), Option.bind_none]
  | some properties =>
      rw [Option.bind_some, last]
      cases properties with
      | null => rw [orElse, nothing _ (.inl rfl), nothing _ (.inr rfl)]
      | boolean | number | string | array | object => exact Iff.rfl

theorem isText_iff {value : Option JsonValue} {literal : Text} :
    isText value literal = true ↔ value = some (.string literal) := by
  unfold isText
  split
  · rename_i characters
    rw [beq_iff_eq, Option.some.injEq, JsonValue.string.injEq]
  · rename_i other
    exact iff_of_false nofun fun same => other literal same

theorem some_of_isAnyOf {value : Option JsonValue} {list : List String}
    (any : isAnyOf value list = true) : Exists fun found => value = some found := by
  rcases List.any_eq_true.1 any with ⟨literal, _, same⟩
  exact ⟨_, isText_iff.1 same⟩

/-- Reading on through optional members is reading along the path. -/
theorem getPath_variable {resource value : JsonValue} :
    optional (optional ((propertiesOf resource).get (text "Environment")) "Variables")
        "ASYNC_ANALYSIS_ENABLED" = some value ↔
      resource.getPath variablePath = some value := by
  have before : (propertiesOf resource).get (text "Environment") =
      resource.getPath [text "Properties", text "Environment"] := by
    refine Option.ext fun nested => ?_
    exact get_propertiesOf (by decide)
  unfold variablePath optional
  rw [before]
  simp only [JsonValue.getPath, Option.bind_assoc, Option.bind_fun_some]

/-- A resource whose switch is at the end of the path. -/
def HasSwitch (resource : JsonValue) (path : List Text) : Prop :=
  Exists fun value => resource.getPath path = some value

theorem hasSwitch_function {resource : JsonValue} (checked : checkFunction resource = .ok ()) :
    HasSwitch resource variablePath := by
  unfold checkFunction at checked
  simp only at checked
  split at checked
  · rename_i all
    rcases some_of_isAnyOf all.2.2 with ⟨value, found⟩
    exact ⟨value, getPath_variable.1 found⟩
  · cases checked

theorem hasSwitch_mapping {resource : JsonValue}
    (checked : isBoolean ((propertiesOf resource).get (text "Enabled")) = true) :
    HasSwitch resource [text "Properties", text "Enabled"] := by
  unfold isBoolean at checked
  split at checked
  · rename_i value found
    exact ⟨_, (get_propertiesOf (by decide)).1 found⟩
  · cases checked

theorem hasSwitch_schedule {resource : JsonValue}
    (checked : isAnyOf ((propertiesOf resource).get (text "State")) ["ENABLED", "DISABLED"] =
      true) : HasSwitch resource [text "Properties", text "State"] := by
  rcases some_of_isAnyOf checked with ⟨value, found⟩
  exact ⟨value, (get_propertiesOf (by decide)).1 found⟩

/-- A switch can be set to any value. -/
theorem HasSwitch.set {resource : JsonValue} {path : List Text} (switched : HasSwitch resource path)
    (names : forall key, key ∈ path -> JsonValue.IsName key) (value : JsonValue) :
    (JsonValue.modifyPath path (fun _ => value) resource).getPath path = some value := by
  rcases switched with ⟨before, found⟩
  exact JsonValue.getPath_modifyPath names found _

theorem names_variablePath : forall key, key ∈ variablePath -> JsonValue.IsName key := by decide

theorem names_enabled : forall key, key ∈ [text "Properties", text "Enabled"] ->
    JsonValue.IsName key := by decide

theorem names_state : forall key, key ∈ [text "Properties", text "State"] ->
    JsonValue.IsName key := by decide

/-- A function passes its check after its switch has been turned off. -/
theorem checkFunction_off {resource : JsonValue} (checked : checkFunction resource = .ok ()) :
    checkFunction (JsonValue.modifyPath variablePath (fun _ => .string (text "false")) resource) =
      .ok () := by
  have off := getPath_variable.2 ((hasSwitch_function checked).set names_variablePath
    (.string (text "false")))
  have isSwitch : IsSwitch variablePath := ⟨text "Environment", _, rfl, by decide⟩
  have same := (sameToSearch_modifyPath isSwitch
    (fun _ => .string (text "false")) resource).properties
  unfold checkFunction at checked ⊢
  simp only at checked ⊢
  split at checked
  · rename_i all
    refine if_pos ⟨?_, ?_, ?_⟩
    · rw [same _ (by decide)]
      exact all.1
    · rw [same _ (by decide)]
      exact all.2.1
    · rw [off]
      decide
  · cases checked

/-! ## The search on the changed template -/

section Resources

variable {found : Found} {stage : Text} {resources : List Resource}

/-- Two functions of different names are different resources. -/
theorem ids_differ_of_names {first second : Resource} {firstName secondName : Text}
    (nodup : (resources.map Prod.fst).Nodup)
    (one : find LAMBDA (isFunction firstName) resources = .ok first)
    (other : find LAMBDA (isFunction secondName) resources = .ok second)
    (different : firstName ≠ secondName) : first.1 ≠ second.1 := by
  intro same
  have equal : first = second :=
    List.inj_on_of_nodup_map nodup (find_ok one).1 (find_ok other).1 same
  have firstIs := isText_iff.1 (Except.ok.inj (find_ok one).2.1.2)
  have secondIs := isText_iff.1 (Except.ok.inj (find_ok other).2.1.2)
  rw [equal, secondIs] at firstIs
  exact different (JsonValue.string.inj (Option.some.inj firstIs)).symm

/-- Resources of different types are different. -/
theorem ids_differ_of_types {firstType secondType : String} {first second : Resource}
    {firstPredicate secondPredicate : JsonValue -> Except ScriptError Bool}
    (nodup : (resources.map Prod.fst).Nodup)
    (one : find firstType firstPredicate resources = .ok first)
    (other : find secondType secondPredicate resources = .ok second)
    (different : text firstType ≠ text secondType) : first.1 ≠ second.1 := by
  intro same
  have equal : first = second :=
    List.inj_on_of_nodup_map nodup (find_ok one).1 (find_ok other).1 same
  have firstIs := isText_iff.1 (find_ok one).2.1.1
  have secondIs := isText_iff.1 (find_ok other).2.1.1
  rw [equal, secondIs] at firstIs
  exact different (JsonValue.string.inj (Option.some.inj firstIs)).symm

theorem resourceName_ne {first second : String}
    (different : text ("-" ++ first) ≠ text ("-" ++ second)) (stage : Text) : resourceName stage first ≠ resourceName stage second := by
  unfold resourceName
  rw [List.append_assoc, List.append_assoc]
  exact fun same => different (List.append_cancel_left (List.append_cancel_left same))

theorem nodup_off (checked : found.Checked stage resources)
    (nodup : (resources.map Prod.fst).Nodup) : (found.switches.off.map Node.id).Nodup := by
  have names := @resourceName_ne
  have apiWorker := ids_differ_of_names nodup checked.api checked.worker
    (names (by decide) stage)
  have apiReconciler := ids_differ_of_names nodup checked.api checked.reconciler
    (names (by decide) stage)
  have workerReconciler := ids_differ_of_names nodup checked.worker checked.reconciler
    (names (by decide) stage)
  have apiMapping := ids_differ_of_types nodup checked.api checked.mapping (by decide)
  have workerMapping := ids_differ_of_types nodup checked.worker checked.mapping (by decide)
  have reconcilerMapping := ids_differ_of_types nodup checked.reconciler checked.mapping (by decide)
  have apiSchedule := ids_differ_of_types nodup checked.api checked.schedule (by decide)
  have workerSchedule := ids_differ_of_types nodup checked.worker checked.schedule (by decide)
  have reconcilerSchedule := ids_differ_of_types nodup checked.reconciler checked.schedule
    (by decide)
  have mappingSchedule := ids_differ_of_types nodup checked.mapping checked.schedule (by decide)
  simp only [Found.switches, Switches.off, List.map_cons, List.map_nil, List.nodup_cons,
    List.mem_cons, List.not_mem_nil, or_false, not_or, not_false_eq_true, List.nodup_nil, and_true]
  exact ⟨⟨apiWorker, apiReconciler, apiMapping, apiSchedule⟩,
    ⟨workerReconciler, workerMapping, workerSchedule⟩, ⟨reconcilerMapping, reconcilerSchedule⟩,
    mappingSchedule⟩

theorem isSwitch_off (switches : Switches) :
    forall node, node ∈ switches.off -> IsSwitch node.path := by
  intro node member
  simp only [Switches.off, List.mem_cons, List.not_mem_nil, or_false] at member
  rcases member with rfl | rfl | rfl | rfl | rfl
  · exact ⟨text "Environment", _, rfl, by decide⟩
  · exact ⟨text "Environment", _, rfl, by decide⟩
  · exact ⟨text "Environment", _, rfl, by decide⟩
  · exact ⟨text "Enabled", _, rfl, by decide⟩
  · exact ⟨text "State", _, rfl, by decide⟩

/-- The same resources after a change. -/
def Found.after (change : Text -> JsonValue -> JsonValue) (found : Found) : Found where
  api := changed change found.api
  worker := changed change found.worker
  reconciler := changed change found.reconciler
  queue := changed change found.queue
  mapping := changed change found.mapping
  schedule := changed change found.schedule

/-- Turning the switches off hides no resource from the search and fails no
check. -/
theorem Found.Checked.off (checked : found.Checked stage resources)
    (nodup : (resources.map Prod.fst).Nodup) :
    (found.after (changeOf found.switches.off)).Checked stage
      (resources.map (changed (changeOf found.switches.off))) := by
  have same : forall id resource, SameToSearch resource (changeOf found.switches.off id resource) :=
    sameToSearch_changeOf (isSwitch_off _)
  have ids := nodup_off checked nodup
  have function : forall entry : Resource, checkFunction entry.2 = .ok () ->
      ⟨entry.1, variablePath, .string (text "false")⟩ ∈ found.switches.off ->
      checkFunction (changed (changeOf found.switches.off) entry).2 = .ok () := by
    intro entry function member
    change checkFunction (changeOf _ entry.1 entry.2) = .ok ()
    rw [changeOf_own member ids]
    exact checkFunction_off function
  have enabled : (propertiesOf (changeOf found.switches.off found.mapping.1 found.mapping.2)).get
      (text "Enabled") = some (.boolean false) := by
    have member : ⟨found.mapping.1, [text "Properties", text "Enabled"], .boolean false⟩ ∈
        found.switches.off := List.mem_of_getElem? (i := 3) rfl
    rw [changeOf_own member ids, get_propertiesOf (by decide)]
    exact (hasSwitch_mapping checked.enabled).set names_enabled _
  have state : (propertiesOf (changeOf found.switches.off found.schedule.1 found.schedule.2)).get
      (text "State") = some (.string (text "DISABLED")) := by
    have member : ⟨found.schedule.1, [text "Properties", text "State"],
        .string (text "DISABLED")⟩ ∈ found.switches.off := List.mem_of_getElem? (i := 4) rfl
    rw [changeOf_own member ids, get_propertiesOf (by decide)]
    exact (hasSwitch_schedule checked.state).set names_state _
  exact {
    api := by rw [find_changed (unswitched_isFunction _) same, checked.api]; rfl
    worker := by rw [find_changed (unswitched_isFunction _) same, checked.worker]; rfl
    reconciler := by rw [find_changed (unswitched_isFunction _) same, checked.reconciler]; rfl
    functions := by rw [checkCount_changed same, checked.functions]
    apiFunction := function _ checked.apiFunction List.mem_cons_self
    workerFunction := function _ checked.workerFunction (List.mem_of_getElem? (i := 1) rfl)
    reconcilerFunction :=
      function _ checked.reconcilerFunction (List.mem_of_getElem? (i := 2) rfl)
    queue := by rw [find_changed (unswitched_isQueue _) same, checked.queue]; rfl
    mapping := by
      rw [show (found.after _).worker.1 = found.worker.1 from rfl,
        show (found.after _).queue.1 = found.queue.1 from rfl,
        find_changed (unswitched_isMapping _ _) same, checked.mapping]
      rfl
    mappings := by rw [checkCount_changed same, checked.mappings]
    enabled := by
      change isBoolean ((propertiesOf (changeOf _ found.mapping.1 found.mapping.2)).get _) = true
      rw [enabled]
      rfl
    schedule := by
      rw [show (found.after _).reconciler.1 = found.reconciler.1 from rfl,
        find_changed (unswitched_isSchedule _ _) same, checked.schedule]
      rfl
    state := by
      change isAnyOf ((propertiesOf (changeOf _ found.schedule.1 found.schedule.2)).get _) _ = true
      rw [state]
      decide }

/-- A search finds nothing in a text. -/
theorem hasMutableResources {template : JsonValue}
    (checked : found.Checked stage (resourcesOf template)) : HasMutableResources template := by
  intro resources present characters same
  subst same
  have here := (find_ok checked.api).1
  have typed := isText_iff.1 (find_ok checked.api).2.1.1
  unfold resourcesOf at here
  rw [present] at here
  rcases List.mem_mapIdx.1 here with ⟨index, _, entry⟩
  rcases JsonValue.object_of_get (by decide) typed with ⟨members, object, _⟩
  rw [← entry] at object
  cases object

end Resources

/-! ## The plan -/

/-- The template of the plan has passed every check. -/
structure Plan.Checked (plan : Plan) (stage : Text) : Prop where
  unique : plan.template.HasUniqueKeys
  identified : identify stage (resourcesOf plan.template) = .ok plan.switches
  parameters : checkParameters plan.deployed plan.template = .ok ()

/-- The template that the plan submits. -/
def Plan.submitted (plan : Plan) : JsonValue := assign plan.switches.off plan.template

theorem nodup_resourcesOf {template : JsonValue} (unique : template.HasUniqueKeys) :
    ((resourcesOf template).map Prod.fst).Nodup := by
  unfold resourcesOf
  cases found : template.get (text "Resources") with
  | none => exact List.nodup_nil
  | some resources => exact (unique.get found).entries.1

section Plan

variable {plan : Plan} {stage : Text}

/-- The search finds the same resources in the template that is submitted. -/
theorem Plan.Checked.identify_submitted (checked : plan.Checked stage) :
    identify stage (resourcesOf plan.submitted) = .ok plan.switches := by
  rcases identify_ok checked.identified with ⟨found, searched, same⟩
  unfold Plan.submitted
  rw [same, resourcesOf_assign _ (hasMutableResources searched)]
  exact (searched.off (nodup_resourcesOf checked.unique)).identify

theorem Plan.Checked.nodup (checked : plan.Checked stage) :
    (plan.switches.off.map Node.id).Nodup := by
  rcases identify_ok checked.identified with ⟨found, searched, same⟩
  rw [same]
  exact nodup_off searched (nodup_resourcesOf checked.unique)

/-- Whatever the five nodes are set to, the submitted template and the deployed
one become equal. -/
theorem Plan.Checked.frame (checked : plan.Checked stage) {nodes : List Node}
    (same : List.Forall₂ (fun node final => final.id = node.id ∧ final.path = node.path)
      plan.switches.off nodes) : assign nodes plan.submitted = assign nodes plan.template :=
  assign_assign same checked.nodup plan.template

/-- There is nothing left to turn off. -/
theorem Plan.Checked.assign_submitted (checked : plan.Checked stage) :
    assign plan.switches.off plan.submitted = plan.submitted :=
  checked.frame (List.forall₂_same.2 fun _ _ => ⟨rfl, rfl⟩)

end Plan

/-! ## The parameters -/

theorem perm_sortValues (values : List (Option JsonValue)) : (sortValues values).Perm values := by
  have defined : (values.filterMap id).map some = values.filter Option.isSome := by
    induction values with
    | nil => rfl
    | cons value rest inductionHypothesis =>
        cases value with
        | none => exact inductionHypothesis
        | some value => exact congrArg (some value :: ·) inductionHypothesis
  have sorted := (List.mergeSort_perm (values.filterMap id) fun first second =>
    isBefore (toStringValue first) (toStringValue second)).map some
  have apart := List.filter_append_perm Option.isSome values
  simp only [Option.not_isSome] at apart
  unfold sortValues
  exact ((sorted.trans (.of_eq defined)).append_right _).trans apart

theorem deployedKeys_ok {parameters : List JsonValue} {keys : List (Option JsonValue)}
    (read : deployedKeys parameters = .ok keys) :
    keys = parameters.map (JsonValue.get (text "ParameterKey")) := by
  induction parameters generalizing keys with
  | nil =>
      cases read
      rfl
  | cons parameter rest inductionHypothesis =>
      rcases Except.bind_ok read with ⟨key, readKey, readRest⟩
      rcases Except.bind_ok readRest with ⟨others, readOthers, same⟩
      rcases required_ok readKey with ⟨_, present, _, rfl⟩
      cases present
      cases same
      rw [inductionHypothesis readOthers, List.map_cons]

/-- The keys of the template are the keys of the parameters of the stack. -/
def SameParameters (deployed template : JsonValue) : Prop :=
  Exists fun parameters => deployed.get (text "Parameters") = some (.array parameters) ∧
    (parameters.map (JsonValue.get (text "ParameterKey"))).Perm
      ((parameterKeysOf template).map fun key => some (.string key))

theorem checkParameters_ok {deployed template : JsonValue}
    (checked : checkParameters deployed template = .ok ()) :
    SameParameters deployed template := by
  unfold checkParameters at checked
  split at checked
  · rename_i parameters present
    rcases Except.bind_ok checked with ⟨keys, read, further⟩
    refine ⟨parameters, present, ?_⟩
    rw [← deployedKeys_ok read]
    split at further
    · rename_i rendered
      have sorted := JsonValue.eq_strings_of_stringify_eq rendered
      -- An undefined key would have been rendered as `null`, which is no string.
      have strings : sortValues keys =
          (parameterKeysOf template).map fun key => some (.string key) := by
        change sortValues keys = (parameterKeysOf template).map (some ∘ JsonValue.string)
        rw [← List.map_map, ← sorted, List.map_map]
        refine ((List.map_congr_left fun key member => ?_).trans (List.map_id _)).symm
        cases key with
        | some key => rfl
        | none =>
            have null : JsonValue.null ∈ (sortValues keys).map fun key => key.getD .null :=
              List.mem_map.2 ⟨none, member, rfl⟩
            rw [sorted] at null
            rcases List.mem_map.1 null with ⟨_, _, same⟩
            cases same
      exact strings ▸ (perm_sortValues keys).symm
    · cases further
  · cases checked

/-! ## What the plan changes -/

/-- One resource has the id and satisfies the condition, and no other resource
satisfies it. -/
def IsOnlyUnder (resources : List Resource) (id : Text) (satisfies : JsonValue -> Prop) : Prop :=
  Exists fun resource => IsOnly resources (id, resource) satisfies

theorem find_only {type : String} {predicate : JsonValue -> Except ScriptError Bool}
    {resources : List Resource} {entry : Resource}
    (found : find type predicate resources = .ok entry) :
    IsOnlyUnder resources entry.1 (Satisfies type predicate) := ⟨entry.2, find_ok found⟩

/-- The five ids are those of the functions of the stage, of the mapping that
joins its worker to its queue, and of the rule of its reconciler. -/
structure Switches.AreThoseOf (switches : Switches) (stage : Text) (resources : List Resource) :
    Prop where
  api : IsOnlyUnder resources switches.api
    (Satisfies LAMBDA (isFunction (resourceName stage "api")))
  worker : IsOnlyUnder resources switches.worker
    (Satisfies LAMBDA (isFunction (resourceName stage "analysis-worker")))
  reconciler : IsOnlyUnder resources switches.reconciler
    (Satisfies LAMBDA (isFunction (resourceName stage "analysis-reconciler")))
  mapping : Exists fun queueId => IsOnlyUnder resources queueId
      (Satisfies QUEUE (isQueue (resourceName stage "analysis.fifo"))) ∧
    IsOnlyUnder resources switches.mapping (Satisfies MAPPING (isMapping switches.worker queueId))
  schedule : IsOnlyUnder resources switches.schedule
    (Satisfies RULE (isSchedule (resourceName stage "analysis-reconciler") switches.reconciler))

/-- The submitted template has the five switches off and is otherwise the
deployed one. -/
structure Plan.TurnsOff (plan : Plan) (stage : Text) : Prop where
  identified : plan.switches.AreThoseOf stage (resourcesOf plan.template)
  present : forall node, node ∈ plan.switches.off -> HasSwitch plan.template node.place
  switched : forall node, node ∈ plan.switches.off ->
    plan.submitted.getPath node.place = some node.value
  frame : forall nodes, List.Forall₂ (fun node final => final.id = node.id ∧ final.path = node.path)
    plan.switches.off nodes -> assign nodes plan.submitted = assign nodes plan.template
  parameters : SameParameters plan.deployed plan.template

/-- A resource is reached under its id. -/
theorem getPath_resource {template resource : JsonValue} {id : Text} (path : List Text)
    (nodup : ((resourcesOf template).map Prod.fst).Nodup)
    (member : (id, resource) ∈ resourcesOf template) :
    template.getPath (text "Resources" :: id :: path) = resource.getPath path := by
  change (template.get (text "Resources")).bind (JsonValue.getPath (id :: path)) = _
  unfold resourcesOf at nodup member
  cases found : template.get (text "Resources") with
  | none =>
      rw [found] at member
      cases member
  | some resources =>
      rw [found, Option.map_some, Option.getD_some] at nodup member
      change (resources.get id).bind (JsonValue.getPath path) = _
      unfold JsonValue.get
      rw [JsonValue.find_of_mem nodup member]
      rfl

/-- Every switch belongs to a resource that the search has found. -/
theorem Found.Checked.hasSwitch {found : Found} {stage : Text} {resources : List Resource}
    (checked : found.Checked stage resources) :
    forall node, node ∈ found.switches.off ->
      (forall key, key ∈ node.path -> JsonValue.IsName key) ∧
      Exists fun resource => (node.id, resource) ∈ resources ∧ HasSwitch resource node.path := by
  intro node member
  simp only [Switches.off, List.mem_cons, List.not_mem_nil, or_false] at member
  rcases member with rfl | rfl | rfl | rfl | rfl
  · exact ⟨names_variablePath, _, (find_ok checked.api).1, hasSwitch_function checked.apiFunction⟩
  · exact ⟨names_variablePath, _, (find_ok checked.worker).1,
      hasSwitch_function checked.workerFunction⟩
  · exact ⟨names_variablePath, _, (find_ok checked.reconciler).1,
      hasSwitch_function checked.reconcilerFunction⟩
  · exact ⟨names_enabled, _, (find_ok checked.mapping).1, hasSwitch_mapping checked.enabled⟩
  · exact ⟨names_state, _, (find_ok checked.schedule).1, hasSwitch_schedule checked.state⟩

theorem Plan.Checked.turnsOff {plan : Plan} {stage : Text} (checked : plan.Checked stage) :
    plan.TurnsOff stage := by
  rcases identify_ok checked.identified with ⟨found, searched, same⟩
  have keys := nodup_resourcesOf checked.unique
  refine ⟨?_, fun node member => ?_, fun node member => ?_, fun nodes => checked.frame,
    checkParameters_ok checked.parameters⟩
  · rw [same]
    exact ⟨find_only searched.api, find_only searched.worker, find_only searched.reconciler,
      ⟨_, find_only searched.queue, find_only searched.mapping⟩, find_only searched.schedule⟩
  · rcases searched.hasSwitch node (same ▸ member) with ⟨_, resource, among, value, here⟩
    exact ⟨value, (getPath_resource node.path keys among).trans here⟩
  · rcases searched.hasSwitch node (same ▸ member) with ⟨names, resource, among, switch⟩
    have resources : resourcesOf plan.submitted = _ :=
      resourcesOf_assign plan.switches.off (hasMutableResources searched)
    have after : (node.id, changeOf plan.switches.off node.id resource) ∈
        resourcesOf plan.submitted := resources ▸ List.mem_map.2 ⟨_, among, rfl⟩
    have unique : ((resourcesOf plan.submitted).map Prod.fst).Nodup := by
      rw [resources, List.map_map]
      exact keys
    rw [Node.place, getPath_resource node.path unique after, changeOf_own member checked.nodup]
    exact switch.set names node.value

/-! ## Runs of the script -/

def updateOf (event : Event Cli) : Option AwsCall :=
  match event with
  | ⟨.aws call, _⟩ => if call.operation = .updateStack then some call else none
  | ⟨.log _, _⟩ => none

/-- The updates that were submitted. -/
def updatesOf (events : History Cli) : List AwsCall := events.filterMap updateOf

/-- The error has its cause in a call: the environment raised it, or the result
was one of failure. -/
def Caused (error : ScriptError) (event : Event Cli) : Prop :=
  match event with
  | ⟨.aws call, outcome⟩ => outcome = .error error ∨ Exists fun result : CliResult =>
      outcome = .ok result ∧ readResult call.operation result = .error error
  | ⟨.log _, outcome⟩ => outcome = .error error

section Calls

variable {region : Option Text} {operation : AwsOperation} {args : List Text} {input : Option Text}
  {next : Option JsonValue -> Script Unit} {events : History Cli} {rest : Script Unit}

/-- A call has not been made, or has been answered and read, or has failed. -/
theorem run_aws (run : Program.Run (aws region operation args input >>= next) events rest) :
    (events = [] ∧ forall error, rest ≠ .fail error) ∨
      Exists fun outcome => Exists fun later =>
        events = ⟨.aws (awsCall region operation args input), outcome⟩ :: later ∧
          ((Exists fun result => Exists fun value => outcome = .ok result ∧
              readResult operation result = .ok value ∧ Program.Run (next value) later rest) ∨
            later = [] ∧ forall error, rest = .fail error ->
              Caused error ⟨.aws (awsCall region operation args input), outcome⟩) := by
  rcases run.of_request with ⟨none, same⟩ | ⟨outcome, later, split, onward⟩
  · exact .inl ⟨none, fun error failed => by rw [same] at failed; cases failed⟩
  · refine .inr ⟨outcome, later, split, ?_⟩
    cases outcome with
    | error fault =>
        have ended := Program.Run.of_fail onward
        refine .inr ⟨ended.1, fun error failed => .inl ?_⟩
        rw [ended.2] at failed
        cases failed
        rfl
    | ok result =>
        change Program.Run (((Script.ofExcept (readResult operation result)).bind next))
          later rest at onward
        cases read : readResult operation result with
        | error error =>
            rw [read] at onward
            have ended := Program.Run.of_fail onward
            refine .inr ⟨ended.1, fun found failed => .inr ⟨result, rfl, ?_⟩⟩
            rw [ended.2] at failed
            cases failed
            exact read
        | ok value =>
            rw [read] at onward
            exact .inl ⟨result, value, rfl, read, onward⟩

/-- A check has succeeded, or the script has ended. -/
theorem run_ofExcept {α : Type} {checked : Except ScriptError α} {next : α -> Script Unit}
    (run : Program.Run (Script.ofExcept checked >>= next) events rest) :
    (Exists fun value => checked = .ok value ∧ Program.Run (next value) events rest) ∨
      events = [] := by
  cases checked with
  | ok value => exact .inl ⟨value, rfl, run⟩
  | error error => exact .inr (Program.Run.of_fail run).1

/-- A message is no update, and is the end of the script. -/
theorem run_log {message : Text} (run : Program.Run (Script.log message) events rest) :
    updatesOf events = [] ∧ forall error, rest = .fail error ->
      Exists fun event => event ∈ events ∧ Caused error event := by
  rcases run.of_request with ⟨none, same⟩ | ⟨outcome, later, split, onward⟩
  · rw [none, same]
    exact ⟨rfl, nofun⟩
  · cases outcome with
    | ok =>
        rw [split, onward.of_done.1, onward.of_done.2]
        exact ⟨rfl, nofun⟩
    | error fault =>
        rw [split, onward.of_fail.1, onward.of_fail.2]
        refine ⟨rfl, fun error failed => ⟨_, List.mem_cons_self, ?_⟩⟩
        cases failed
        rfl

end Calls

/-- What the plan tells the command line to submit. -/
def Plan.update (plan : Plan) (region : Option Text) (stage : Text) : AwsCall :=
  awsCall region .updateStack
    [text "--cli-input-json", text "file:///dev/stdin", text "--output", text "json"]
    (some (updateInput (stackNameOf stage) plan.submitted.stringify (parameterKeysOf plan.template)
      plan.deployed).stringify)

/-- Nothing has been submitted; or the update has, once, and whatever fails
from then on is a call. -/
inductive AtMostOnce (update : AwsCall) (events : History Cli) (rest : Script Unit) : Prop where
  | nothing (unchanged : updatesOf events = [])
  | submitted (outcome : Cli.Outcome (.aws update)) (later : History Cli)
      (split : events = ⟨.aws update, outcome⟩ :: later) (once : updatesOf later = [])
      (errors : forall error, rest = .fail error ->
        Exists fun event => event ∈ events ∧ Caused error event)

theorem run_submit {region : Option Text} {stage : Text} {plan : Plan} {events : History Cli}
    {rest : Script Unit} (run : Program.Run (submit region (stackNameOf stage) plan) events rest) :
    AtMostOnce (plan.update region stage) events rest ∧
      (updatesOf events ≠ [] -> plan.body ≠ plan.template.stringify) := by
  unfold submit at run
  split at run
  · exact ⟨.nothing (run_log run).1, fun updated => absurd (run_log run).1 updated⟩
  · rename_i differs
    refine ⟨?_, fun _ => differs⟩
    split at run
    · exact .nothing (congrArg updatesOf run.of_fail.1)
    · rcases run_aws run with ⟨none, _⟩ | ⟨outcome, later, split, answered | ⟨none, failed⟩⟩
      · exact .nothing (congrArg updatesOf none)
      · rcases answered with ⟨result, value, replied, read, onward⟩
        have afterwards : updatesOf later = [] ∧ forall error, rest = .fail error ->
            Exists fun event => event ∈ later ∧ Caused error event := by
          split at onward
          · rcases run_aws onward with ⟨none, unfinished⟩ | ⟨reply, more, waited, either⟩
            · exact ⟨congrArg updatesOf none, fun error same => absurd same (unfinished error)⟩
            · rcases either with ⟨_, _, _, _, told⟩ | ⟨none, failed⟩
              · rw [waited]
                refine ⟨(run_log told).1, fun error same => ?_⟩
                rcases (run_log told).2 error same with ⟨event, member, caused⟩
                exact ⟨event, List.mem_cons_of_mem _ member, caused⟩
              · rw [waited, none]
                exact ⟨rfl, fun error same => ⟨_, List.mem_cons_self, failed error same⟩⟩
          · exact run_log onward
        refine .submitted outcome later split afterwards.1 fun error same => ?_
        rcases afterwards.2 error same with ⟨event, member, caused⟩
        exact ⟨event, split ▸ List.mem_cons_of_mem _ member, caused⟩
      · refine .submitted outcome later split (congrArg updatesOf none) fun error same => ?_
        exact ⟨_, split ▸ List.mem_cons_self, failed error same⟩

/-! ## The whole stop -/

def describeCall (region : Option Text) (stage : Text) : AwsCall :=
  awsCall region .describeStacks
    [text "--stack-name", stackNameOf stage, text "--output", text "json"] none

def templateCall (region : Option Text) (stage : Text) : AwsCall :=
  awsCall region .getTemplate [text "--stack-name", stackNameOf stage,
    text "--template-stage", text "Original", text "--output", text "json"] none

/-- The command line has answered with this stack. -/
def Describes (stage : Text) (result : CliResult) (deployed : JsonValue) : Prop :=
  Exists fun answer => readResult .describeStacks result = .ok answer ∧
    checkStack (stackNameOf stage) answer = .ok deployed

/-- The command line has answered with this template. -/
def Holds (result : CliResult) (template : JsonValue) : Prop :=
  Exists fun answer => readResult .getTemplate result = .ok answer ∧
    readTemplate answer = .ok template

/-- A template that was read has unique keys. -/
theorem Holds.unique {result : CliResult} {template : JsonValue} (holds : Holds result template) :
    template.HasUniqueKeys := by
  rcases holds with ⟨answer, read, templated⟩
  have whole : forall value, answer = some value -> value.HasUniqueKeys := by
    intro value present
    subst present
    unfold readResult at read
    split at read
    · split at read <;> cases read
    · split at read
      · cases read
      · split at read
        · rename_i parsed
          cases read
          exact JsonValue.hasUniqueKeys_parse parsed
        · cases read
  rcases Except.bind_ok templated with ⟨body, given, checked⟩
  have same : body = some template := by
    unfold checkTemplate at checked
    split at checked
    · cases checked
    · split at checked
      · cases checked
        rfl
      · cases checked
  subst same
  unfold templateBody at given
  split at given
  · split at given
    · rename_i parsed
      cases given
      exact JsonValue.hasUniqueKeys_parse parsed
    · cases given
  · cases answer with
    | none => cases given
    | some value => exact (whole value rfl).get (Except.ok.inj given)

/-- The run has submitted the plan, once, after both answers have been read
and every check has passed; whatever fails from then on is a call. -/
structure Submitted (region : Option Text) (stage : Text) (events : History Cli)
    (rest : Script Unit) (plan : Plan) : Prop where
  isStage : isStage stage = true
  calls : Exists fun described => Exists fun answered => Exists fun outcome => Exists fun later =>
    events = ⟨.aws (describeCall region stage), .ok described⟩ ::
        ⟨.aws (templateCall region stage), .ok answered⟩ ::
        ⟨.aws (plan.update region stage), outcome⟩ :: later ∧
      Describes stage described plan.deployed ∧ Holds answered plan.template ∧
      updatesOf later = [] ∧ forall error, rest = .fail error ->
        Exists fun event => event ∈ ⟨.aws (plan.update region stage), outcome⟩ :: later ∧
          Caused error event
  checked : plan.Checked stage
  differs : plan.submitted ≠ plan.template

theorem run_disable {region stage : Option Text} {events : History Cli} {rest : Script Unit}
    (run : Program.Run (disable region stage) events rest) : updatesOf events = [] ∨
      Exists fun plan => Submitted region (stage.getD []) events rest plan := by
  unfold disable at run
  simp only at run
  split at run
  · exact .inl (congrArg updatesOf run.of_fail.1)
  · rename_i isStage
    rcases run_aws run with ⟨none, _⟩ | ⟨_, _, rfl, answered | ⟨none, _⟩⟩
    · exact .inl (congrArg updatesOf none)
    · rcases answered with ⟨described, stack, rfl, readStack, run⟩
      rcases run_ofExcept run with ⟨deployed, checkedStack, run⟩ | none
      · rcases run_aws run with ⟨none, _⟩ | ⟨_, _, rfl, answered | ⟨none, _⟩⟩
        · exact .inl (congrArg (fun later => updatesOf (_ :: later)) none)
        · rcases answered with ⟨answered, body, rfl, readBody, run⟩
          rcases run_ofExcept run with ⟨template, checkedTemplate, run⟩ | none
          · rcases run_ofExcept run with ⟨switches, identified, run⟩ | none
            · rcases run_ofExcept run with ⟨_, parameters, run⟩ | none
              · have submitted := run_submit run
                cases submitted.1 with
                | nothing unchanged => exact .inl unchanged
                | submitted outcome later split once errors =>
                    subst split
                    have holds : Holds answered template := ⟨body, readBody, checkedTemplate⟩
                    refine .inr ⟨⟨deployed, template, switches⟩, eq_true_of_ne_false isStage,
                      ⟨described, answered, outcome, later, rfl, ⟨stack, readStack, checkedStack⟩,
                        holds, once, errors⟩, ⟨holds.unique, identified, parameters⟩,
                      fun same => ?_⟩
                    exact submitted.2 (List.cons_ne_nil _ _) (congrArg JsonValue.stringify same)
              · exact .inl (congrArg (fun later => updatesOf (_ :: _ :: later)) none)
            · exact .inl (congrArg (fun later => updatesOf (_ :: _ :: later)) none)
          · exact .inl (congrArg (fun later => updatesOf (_ :: _ :: later)) none)
        · exact .inl (congrArg (fun later => updatesOf (_ :: _ :: later)) none)
      · exact .inl (congrArg (fun later => updatesOf (_ :: later)) none)
    · exact .inl (congrArg (fun later => updatesOf (_ :: later)) none)

/-- A stop that reads a template which has been submitted submits nothing. -/
theorem Submitted.again {region other stage : Option Text} {events again : History Cli}
    {rest last : Script Unit} {plan : Plan}
    (submitted : Submitted region (stage.getD []) events rest plan)
    (run : Program.Run (disable other stage) again last)
    (deployed : forall result, ⟨.aws (templateCall other (stage.getD [])), .ok result⟩ ∈ again ->
      Holds result plan.submitted) : updatesOf again = [] := by
  rcases run_disable run with nothing | ⟨second, repeated⟩
  · exact nothing
  · rcases repeated.calls with ⟨_, answered, _, _, split, _, holds, _, _⟩
    have read : Holds answered plan.submitted := deployed answered
      (split ▸ List.mem_cons_of_mem _ List.mem_cons_self)
    rcases read with ⟨answer, given, template⟩
    rcases holds with ⟨answer', given', template'⟩
    cases Except.ok.inj (given.symm.trans given')
    have sameTemplate : second.template = plan.submitted :=
      Except.ok.inj (template'.symm.trans template)
    have identified := repeated.checked.identified
    rw [sameTemplate, submitted.checked.identify_submitted] at identified
    have unchanged : second.submitted = second.template := by
      rw [sameTemplate]
      unfold Plan.submitted
      rw [← Except.ok.inj identified, sameTemplate]
      exact submitted.checked.assign_submitted
    exact absurd unchanged repeated.differs

/-- The stop submits nothing or turns the switches off and leaves every other
node alone, and it need not be repeated. -/
theorem disable_touches_only_switches {region stage : Option Text} {events : History Cli}
    {rest : Script Unit} (run : Program.Run (disable region stage) events rest) :
    updatesOf events = [] ∨ Exists fun plan =>
      Submitted region (stage.getD []) events rest plan ∧ plan.TurnsOff (stage.getD []) ∧
        forall other again last, Program.Run (disable other stage) again last ->
          (forall result, ⟨.aws (templateCall other (stage.getD [])), .ok result⟩ ∈ again ->
            Holds result plan.submitted) -> updatesOf again = [] := by
  rcases run_disable run with nothing | ⟨plan, submitted⟩
  · exact .inl nothing
  · exact .inr ⟨plan, submitted, submitted.checked.turnsOff,
      fun other again last second deployed => submitted.again second deployed⟩

/-! ## A stop -/

def resourceObject (type : String) (properties : List (Text × JsonValue)) : JsonValue :=
  .object [(text "Type", .string (text type)), (text "Properties", .object properties)]

def functionObject (name : String) : JsonValue :=
  resourceObject LAMBDA [(text "FunctionName", .string (resourceName (text "dev") name)),
    (text "PackageType", .string (text "Image")),
    (text "Code", .object [(text "ImageUri", .string (text "image"))]),
    (text "Environment", .object [(text "Variables",
      .object [(text "ASYNC_ANALYSIS_ENABLED", .string (text "true"))])])]

def arnObject (id : Text) : JsonValue :=
  .object [(text "Fn::GetAtt", .array [.string id, .string (text "Arn")])]

def runningTemplate : JsonValue :=
  .object [(text "Resources", .object [
    (text "Api", functionObject "api"),
    (text "Worker", functionObject "analysis-worker"),
    (text "Reconciler", functionObject "analysis-reconciler"),
    (text "Queue", resourceObject QUEUE
      [(text "QueueName", .string (resourceName (text "dev") "analysis.fifo")),
        (text "FifoQueue", .boolean true)]),
    (text "Mapping", resourceObject MAPPING
      [(text "FunctionName", .object [(text "Ref", .string (text "Worker"))]),
        (text "EventSourceArn", arnObject (text "Queue")), (text "Enabled", .boolean true)]),
    (text "Rule", resourceObject RULE
      [(text "Name", .string (resourceName (text "dev") "analysis-reconciler")),
        (text "ScheduleExpression", .string (text "rate(1 minute)")),
        (text "State", .string (text "ENABLED")),
        (text "Targets", .array [.object [(text "Arn", arnObject (text "Reconciler"))]])])])]

def runningStack : JsonValue :=
  .object [(text "Stacks", .array [.object [
    (text "StackName", .string (stackNameOf (text "dev"))),
    (text "StackStatus", .string (text "UPDATE_COMPLETE")), (text "Parameters", .array [])]])]

/-- A command line that knows the running stack. -/
def runningServer : (op : ScriptOp) -> Cli.Outcome op
  | .aws call => .ok ⟨false, some 0, JsonValue.stringify (match call.operation with
      | .describeStacks => runningStack
      | .getTemplate => .object [(text "TemplateBody", runningTemplate)]
      | .updateStack | .waitStackUpdateComplete => .object []), []⟩
  | .log _ => .ok ()

/-- The events of a stop of the running stack. -/
def stopEvents : History Cli :=
  (Program.serve runningServer (disable none (some (text "dev")))).1

theorem disable_touches_only_switches_running : (Exists fun plan => Exists fun rest =>
    Submitted none (text "dev") stopEvents rest plan ∧ plan.TurnsOff (text "dev")) ∧
      (updatesOf stopEvents).isEmpty = false := by
  have updated : (updatesOf stopEvents).isEmpty = false := by decide +kernel
  have stopped := disable_touches_only_switches
    (Program.run_serve runningServer (disable none (some (text "dev"))))
  rcases stopped with nothing | ⟨plan, submitted, turnsOff, _⟩
  · unfold stopEvents at updated
    rw [nothing] at updated
    cases updated
  · exact ⟨⟨plan, _, submitted, turnsOff⟩, updated⟩

end GitMate.Scripts

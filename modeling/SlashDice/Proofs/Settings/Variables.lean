import SlashDice.Proofs.Entries
import SlashDice.Proofs.Settings.DotEnv
import SlashDice.Proofs.Text.Pieces
import SlashDice.Settings.Environment
import SlashDice.Settings.Field

/-!
# What the variables give for a setting

Assignments of a file join the variables behind them, so that for every name, in any letter
case, the variables are found first.  If no two names differ only in letter case, and
none leads into a setting, a setting is given the text of the variable with its name.
-/

namespace SlashDice

open Text

namespace VariableName

theorem ofText?_field_name (field : Settings.Field) :
    ofText? field.name.toList = some ⟨field.name, .whole, false⟩ := by
  cases field <;> rfl

theorem forall₂_of_mapM {α β : Type} {read : α → Option β} {items : List α} {values : List β}
    (all : items.mapM read = some values) :
    List.Forall₂ (fun item value => read item = some value) items values := by
  induction items generalizing values with
  | nil =>
      cases all
      exact .nil
  | cons item rest induction =>
      rw [List.mapM_cons, Option.bind_eq_bind, Option.bind_eq_some_iff] at all
      obtain ⟨value, first, later⟩ := all
      obtain ⟨more, others, same⟩ := Option.bind_eq_some_iff.mp later
      cases same
      exact .cons first (induction others)

theorem Part.name_eq_of_items_eq_nil {text : List Char} {part : Part}
    (read : Part.ofText? text = some part) (noItems : part.items = []) : part.name = text := by
  unfold Part.ofText? at read
  split at read
  · cases read
  next name items cut =>
    obtain ⟨-, read⟩ := Option.ite_none_right_eq_some.mp read
    obtain ⟨numbers, all, rfl⟩ := Option.map_eq_some_iff.mp read
    cases noItems
    cases forall₂_of_mapM all
    exact eq_of_pieces_eq_singleton cut

theorem setting_eq_of_whole {text : List Char} {named : VariableName}
    (read : ofText? text = some named) (whole : named.place = .whole) :
    named.setting = String.ofList text := by
  unfold ofText? at read
  split at read
  next first others parts =>
    cases read
    obtain ⟨noItems, rfl⟩ : first.items = [] ∧ others = [] := by
      unfold placeOf at whole
      split at whole
      · cases whole
      next noItems =>
        split at whole
        · exact ⟨not_not.mp noItems, rfl⟩
        · cases whole
    generalize cut : pieces '.' text = texts at parts
    cases forall₂_of_mapM parts with
    | cons firstRead none =>
        cases none
        rw [Part.name_eq_of_items_eq_nil firstRead noItems, eq_of_pieces_eq_singleton cut]
  · cases read

end VariableName

namespace Environment

open DotEnv

/-- The entries with their names in lower case. -/
def lowerNames (entries : Variables) : Variables :=
  entries.map fun entry => (lowered entry.1, entry.2)

/-- The first value that is given to a name in any letter case. -/
def valueIn (entries : Variables) (name : String) : Option String :=
  (lowerNames entries).lookup name

/-- A name does not lead into a setting, nor to an item that cannot be there. -/
def IsPlainName (name : String) : Prop :=
  ∀ named ∈ nameOf? name,
    named.isOutOfReach = false ∧ (named.setting ∈ Settings.fieldNames → named.place = .whole)

instance : DecidablePred IsPlainName :=
  fun name => inferInstanceAs (Decidable (∀ named ∈ nameOf? name, _))

/-- Variables and assignments that can be made, with no two names that differ only in letter
case and no name that leads into a setting. -/
structure Orderly (bindings assigned : Variables) : Prop where
  distinct : (bindings.map Prod.fst).Nodup
  sameCase : ∀ entry ∈ bindings ++ assigned, ∀ other ∈ bindings ++ assigned,
    lowered entry.1 = lowered other.1 → entry.1 = other.1
  holdable : ∀ entry ∈ bindings, Variables.canHold entry.1 entry.2 = true
  assignable : ∀ entry ∈ assigned, bindings.lookup entry.1 = none →
    Variables.canHold entry.1 entry.2 = true
  plain : ∀ entry ∈ bindings ++ assigned, IsPlainName entry.1

variable {bindings assigned joined entries : Variables} {name : String}

instance : Decidable (Orderly bindings assigned) :=
  decidable_of_iff
    ((bindings.map Prod.fst).Nodup ∧
      (∀ entry ∈ bindings ++ assigned, ∀ other ∈ bindings ++ assigned,
        lowered entry.1 = lowered other.1 → entry.1 = other.1) ∧
      (∀ entry ∈ bindings, Variables.canHold entry.1 entry.2 = true) ∧
      (∀ entry ∈ assigned, bindings.lookup entry.1 = none →
        Variables.canHold entry.1 entry.2 = true) ∧
      ∀ entry ∈ bindings ++ assigned, IsPlainName entry.1)
    ⟨fun ⟨distinct, sameCase, holdable, assignable, plain⟩ =>
        ⟨distinct, sameCase, holdable, assignable, plain⟩,
      fun ⟨distinct, sameCase, holdable, assignable, plain⟩ =>
        ⟨distinct, sameCase, holdable, assignable, plain⟩⟩

theorem valueIn_append (bindings assigned : Variables) (name : String) :
    valueIn (bindings ++ assigned) name = (valueIn bindings name).or (valueIn assigned name) := by
  rw [valueIn, lowerNames, List.map_append, List.lookup_append]
  rfl

theorem valueIn_cons (entry : String × String) (rest : Variables) (name : String) :
    valueIn (entry :: rest) name =
      if name = lowered entry.1 then some entry.2 else valueIn rest name := by
  rw [valueIn, lowerNames, List.map_cons, List.lookup_cons]
  split
  next same => rw [if_pos (eq_of_beq same)]
  next other =>
    rw [if_neg (beq_eq_false_iff_ne.mp other)]
    rfl

theorem isSome_valueIn_of_lookup {value : String} (set : bindings.lookup name = some value) :
    (valueIn bindings (lowered name)).isSome := by
  rw [← Option.ne_none_iff_isSome, valueIn, ne_eq, Entries.lookup_eq_none_iff, not_not]
  exact List.mem_map_of_mem (List.mem_map_of_mem (Entries.mem_of_lookup set))

/-- Variables after assignments are among those that were set or assigned, each of them
once, and for every name the first value stays. -/
structure Joins (bindings assigned joined : Variables) : Prop where
  within : joined ⊆ bindings ++ assigned
  distinct : (joined.map Prod.fst).Nodup
  values : ∀ name, valueIn joined name = (valueIn bindings name).or (valueIn assigned name)

theorem Joins.keep {old : String} (set : bindings.lookup name = some old) (value : String)
    (joins : Joins bindings assigned joined) :
    Joins bindings ((name, value) :: assigned) joined where
  within entry member := by
    rcases List.mem_append.mp (joins.within member) with set | later
    · exact List.mem_append_left _ set
    · exact List.mem_append_right _ (List.mem_cons_of_mem _ later)
  distinct := joins.distinct
  values other := by
    rw [joins.values, valueIn_cons]
    split
    next same =>
      rw [same, Option.or_of_isSome (isSome_valueIn_of_lookup set),
        Option.or_of_isSome (isSome_valueIn_of_lookup set)]
    next => rfl

theorem Joins.add {value : String} (joins : Joins (bindings ++ [(name, value)]) assigned joined) :
    Joins bindings ((name, value) :: assigned) joined where
  within := by simpa using joins.within
  distinct := joins.distinct
  values other := by
    rw [joins.values, valueIn_append, Option.or_assoc, ← valueIn_append, List.singleton_append]

theorem exists_joins (distinct : (bindings.map Prod.fst).Nodup)
    (assignable : ∀ entry ∈ assigned, bindings.lookup entry.1 = none →
      Variables.canHold entry.1 entry.2 = true) :
    ∃ joined, assignAll bindings assigned = .ok joined ∧ Joins bindings assigned joined := by
  -- Every assignment that is made is a variable for those behind it.
  induction assigned generalizing bindings with
  | nil => exact ⟨bindings, rfl, by simp, distinct, fun name => Option.or_none.symm⟩
  | cons entry rest induction =>
      obtain ⟨name, value⟩ := entry
      have later := fun entry member => assignable entry (List.mem_cons_of_mem _ member)
      cases set : bindings.lookup name with
      | some old =>
          obtain ⟨joined, made, joins⟩ := induction distinct later
          refine ⟨joined, ?_, joins.keep set value⟩
          simpa [assignAll, assign, set] using made
      | none =>
          have fresh : ((bindings ++ [(name, value)]).map Prod.fst).Nodup := by
            rw [List.map_append, List.nodup_append']
            refine ⟨distinct, List.nodup_singleton _, ?_⟩
            rw [List.map_singleton, List.disjoint_singleton]
            exact Entries.lookup_eq_none_iff.mp set
          have held := assignable (name, value) List.mem_cons_self set
          obtain ⟨joined, made, joins⟩ := induction fresh fun entry member unset =>
            later entry member (by
              rw [List.lookup_append, Option.or_eq_none_iff] at unset
              exact unset.1)
          refine ⟨joined, ?_, joins.add⟩
          simpa [assignAll, assign, set, held] using made

def givenAfter (setting : String) (given : Option Given) (entry : String × String) :
    Option Given :=
  match nameOf? entry.1 with
  | some named =>
    if named.setting = setting then some (Given.update entry.2 named.place given) else given
  | none => given

variable {setting : String}

theorem find?_eq_foldl : find? entries setting = entries.foldl (givenAfter setting) none := rfl

/-- A variable with a plain name gives its text to the setting of this name and
nothing to the others. -/
theorem givenAfter_of_plain {entry : String × String} (among : setting ∈ Settings.fieldNames)
    (plain : IsPlainName entry.1) (given : Option Given) :
    givenAfter setting given entry =
      if setting = lowered entry.1 then some (.text entry.2) else given := by
  unfold givenAfter
  by_cases same : setting = lowered entry.1
  · obtain ⟨field, rfl⟩ := Settings.Field.mem_fieldNames_iff.mp among
    have whole : nameOf? entry.1 = some ⟨field.name, .whole, false⟩ := by
      rw [nameOf?, ← VariableName.ofText?_field_name, same, lowered, String.toList_ofList]
    rw [whole, if_pos same]
    exact if_pos rfl
  · rw [if_neg same]
    cases read : nameOf? entry.1 with
    | none => rfl
    | some named =>
        refine if_neg fun here => same ?_
        have whole := (plain named read).2 (here ▸ among)
        rw [← here, VariableName.setting_eq_of_whole read whole]
        rfl

theorem foldl_givenAfter_of_plain (among : setting ∈ Settings.fieldNames)
    (plain : ∀ entry ∈ entries, IsPlainName entry.1)
    (distinct : ((lowerNames entries).map Prod.fst).Nodup) (given : Option Given) :
    entries.foldl (givenAfter setting) given = ((valueIn entries setting).map .text).or given := by
  induction entries generalizing given with
  | nil => rfl
  | cons entry rest induction =>
      have later := fun entry member => plain entry (List.mem_cons_of_mem _ member)
      obtain ⟨fresh, distinct⟩ := List.nodup_cons.mp distinct
      rw [List.foldl_cons, givenAfter_of_plain among (plain entry List.mem_cons_self),
        induction later distinct, valueIn_cons]
      split
      next same =>
        have absent : valueIn rest setting = none :=
          Entries.lookup_eq_none_iff.mpr (same ▸ fresh)
        rw [absent]
        rfl
      next => rfl

/-- The last variable that names a setting counts; here it is the only one. -/
theorem find?_of_plain (among : setting ∈ Settings.fieldNames)
    (plain : ∀ entry ∈ entries, IsPlainName entry.1)
    (distinct : ((lowerNames entries).map Prod.fst).Nodup) :
    find? entries setting = (valueIn entries setting).map .text := by
  rw [find?_eq_foldl, foldl_givenAfter_of_plain among plain distinct, Option.or_none]

theorem checkNames_of_plain (plain : ∀ entry ∈ entries, IsPlainName entry.1) :
    checkNames entries = .ok () := by
  have none : (entries.find? fun entry => (nameOf? entry.1).any VariableName.isOutOfReach) =
      none := by
    rw [List.find?_eq_none]
    intro entry member outOfReach
    obtain ⟨named, read, far⟩ := Option.any_eq_true _ _ |>.mp outOfReach
    rw [(plain entry member named read).1] at far
    cases far
  rw [checkNames, none]

theorem checkVariables_of_holdable
    (holdable : ∀ entry ∈ entries, Variables.canHold entry.1 entry.2 = true) :
    checkVariables entries = .ok () := by
  have none : (entries.find? fun entry => !Variables.canHold entry.1 entry.2) = none := by
    rw [List.find?_eq_none]
    intro entry member
    rw [holdable entry member]
    exact Bool.false_ne_true
  rw [checkVariables, none]

/-- The assignments that a file makes while the variables are set. -/
def assignedIn (bindings : Variables) (file : Option String) : Variables :=
  file.elim [] (DotEnv.assignments bindings)

theorem nodup_lowerNames (distinct : (entries.map Prod.fst).Nodup)
    (sameCase : ∀ entry ∈ entries, ∀ other ∈ entries,
      lowered entry.1 = lowered other.1 → entry.1 = other.1) :
    ((lowerNames entries).map Prod.fst).Nodup := by
  have names : (lowerNames entries).map Prod.fst = (entries.map Prod.fst).map lowered := by
    rw [lowerNames, List.map_map, List.map_map]
    rfl
  rw [names]
  refine List.Nodup.map_on ?_ distinct
  simpa only [List.forall_mem_map] using sameCase

variable {others : Variables} {file : Option String}

/-- The text that is given for a setting: that of its variable, or else that of its first
assignment in the file. -/
def givenText (bindings : Variables) (file : Option String) (setting : String) : Option String :=
  (valueIn bindings setting).or (valueIn (assignedIn bindings file) setting)

/-- Orderly variables and assignments can be joined, and then give every setting its text. -/
theorem Orderly.exists_withFile (orderly : Orderly bindings (assignedIn bindings file)) :
    ∃ joined, withFile bindings file = .ok joined ∧ checkNames joined = .ok () ∧
      ∀ setting ∈ Settings.fieldNames,
        find? joined setting = (givenText bindings file setting).map .text := by
  obtain ⟨joined, made, joins⟩ := exists_joins orderly.distinct orderly.assignable
  have plain := fun entry member => orderly.plain entry (joins.within member)
  have distinct := nodup_lowerNames joins.distinct fun entry member other otherMember =>
    orderly.sameCase entry (joins.within member) other (joins.within otherMember)
  refine ⟨joined, ?_, checkNames_of_plain plain, fun setting among => ?_⟩
  · cases file with
    | none =>
        cases made
        rfl
    | some text => exact congrArg (Except.mapError EnvironmentFault.unstorable) made
  · rw [find?_of_plain among plain distinct, joins.values, givenText]

theorem Orderly.perm (orderly : Orderly bindings assigned) (perm : others.Perm bindings) :
    Orderly others assigned := by
  have mem_iff {entry : String × String} :
      entry ∈ others ++ assigned ↔ entry ∈ bindings ++ assigned :=
    (perm.append_right assigned).mem_iff
  have sameLookup := Entries.lookup_perm orderly.distinct perm
  exact {
    distinct := (perm.map Prod.fst).nodup_iff.mpr orderly.distinct
    sameCase := fun entry member other otherMember =>
      orderly.sameCase entry (mem_iff.mp member) other (mem_iff.mp otherMember)
    holdable := fun entry member => orderly.holdable entry (perm.mem_iff.mp member)
    assignable := fun entry member unset =>
      orderly.assignable entry member ((sameLookup entry.1).symm.trans unset)
    plain := fun entry member => orderly.plain entry (mem_iff.mp member) }

theorem assignedIn_congr (agree : ∀ text ∈ file, AgreeOn text bindings others) :
    assignedIn bindings file = assignedIn others file := by
  cases file with
  | none => rfl
  | some text => exact assignments_congr (agree text rfl)

/-- The entries that have the name of a setting, in any letter case. -/
def ofSettings (entries : Variables) : Variables :=
  entries.filter fun entry => Settings.fieldNames.contains (lowered entry.1)

theorem valueIn_ofSettings (entries : Variables) (among : setting ∈ Settings.fieldNames) :
    valueIn (ofSettings entries) setting = valueIn entries setting := by
  have lower : lowerNames (ofSettings entries) =
      (lowerNames entries).filter fun entry => Settings.fieldNames.contains entry.1 := by
    rw [lowerNames, lowerNames, ofSettings, List.filter_map]
    rfl
  rw [valueIn, lower, Entries.lookup_filter (List.contains_iff_mem.mpr among), valueIn]

theorem valueIn_eq_of_perm (among : setting ∈ Settings.fieldNames)
    (orderly : Orderly bindings assigned) (perm : (ofSettings others).Perm (ofSettings bindings)) :
    valueIn others setting = valueIn bindings setting := by
  have within : (ofSettings bindings).Sublist bindings := List.filter_sublist
  have distinct : ((lowerNames (ofSettings bindings)).map Prod.fst).Nodup :=
    nodup_lowerNames (orderly.distinct.sublist (within.map Prod.fst))
      fun entry member other otherMember =>
        orderly.sameCase entry (List.mem_append_left _ (within.subset member)) other
          (List.mem_append_left _ (within.subset otherMember))
  rw [← valueIn_ofSettings others among, ← valueIn_ofSettings bindings among]
  exact Entries.lookup_perm distinct (perm.map _) setting

end Environment
end SlashDice

import Mathlib.Data.List.Forall2
import TokenAudit.Json.Decoder

/-! # Members of objects

An object says the same to everybody if no key comes twice in it: whoever looks for a member finds
it under its key, in whatever order the members stand, and whoever decodes a record finds the fields
among the members and passes over the rest.

* `get?_sorted` — the members of an object whose members were put in order;
* `Reading.pass_ofJson` — a whole value is passed over;
* `Reading.record_ofJson` — the fields of a record in a whole object;
* `Decoder.list_ofJson` — a list in a whole array. -/

namespace TokenAudit.Json

variable {α : Type}

/-! ## Members -/

/-- A key is found with the first member if that has it, and else among the others. -/
theorem lookup_cons_eq_ite {β : Type} (key k : String) (value : β) (rest : List (String × β)) :
    ((key, value) :: rest).lookup k = if k = key then some value else rest.lookup k := by
  by_cases hk : k = key
  · rw [List.lookup_cons, hk, beq_self_eq_true, if_pos rfl]
  · rw [List.lookup_cons, beq_false_of_ne hk, if_neg hk]

/-- Only what is among the keys is found. -/
theorem mem_keys_of_lookup {β : Type} {members : List (String × β)} {key : String}
    (h : members.lookup key ≠ none) : key ∈ members.map Prod.fst := by
  by_contra hkey
  refine h (List.lookup_eq_none_iff.2 fun p hp => bne_iff_ne.2 fun heq => hkey ?_)
  exact List.mem_map.2 ⟨p, hp, heq.symm⟩

/-- A member that is put in is found under its key, and all others are found as before. -/
theorem lookup_insertSorted (key k : String) (value : Json) (members : List (String × Json)) :
    (insertSorted key value members).lookup k =
      if k = key then some value else members.lookup k := by
  fun_induction insertSorted key value members with
  | case1 => exact lookup_cons_eq_ite ..
  | case2 => exact lookup_cons_eq_ite ..
  | case3 old rest =>
    -- the new member stands in the place of the old one
    rw [lookup_cons_eq_ite, lookup_cons_eq_ite]
    split
    · rfl
    · rfl
  | case4 k' v rest hlt hne ih =>
    rw [lookup_cons_eq_ite, lookup_cons_eq_ite, ih]
    by_cases hk : k = key
    · subst hk
      rw [if_neg hne, if_pos rfl, if_pos rfl]
    · rw [if_neg hk, if_neg hk]

/-- **An object whose members were put in order** has the members that it was given, if no key comes
twice. -/
theorem get?_sorted {members : List (String × Json)} (h : (members.map Prod.fst).Nodup)
    (key : String) : (sorted members).get? key = members.lookup key := by
  -- with members that were put in before, those given later are found first
  have hfold : ∀ before : List (String × Json),
      (members.foldl (fun acc member => insertSorted member.1 member.2 acc) before).lookup key =
        (members.lookup key).or (before.lookup key) := by
    induction members with
    | nil => exact fun before => rfl
    | cons member rest ih =>
      obtain ⟨k, value⟩ := member
      rw [List.map_cons, List.nodup_cons] at h
      intro before
      rw [List.foldl_cons, ih h.2, lookup_insertSorted, lookup_cons_eq_ite]
      by_cases hk : key = k
      · have hrest : rest.lookup key = none := by
          by_contra hfound
          exact h.1 (hk ▸ mem_keys_of_lookup hfound)
        rw [hrest, if_pos hk, if_pos hk]
        rfl
      · rw [if_neg hk, if_neg hk]
  exact (hfold []).trans Option.or_none

/-! ## Passing over -/

mutual

/-- Nothing is wrong with a whole value. -/
theorem Reading.pass_ofJson : (j : Json) → (Reading.ofJson j).pass = .ok ()
  | .null | .bool _ | .num _ | .str _ => by simp only [Reading.ofJson, Reading.pass]
  | .arr items => by
    rw [Reading.ofJson, Reading.pass, Reading.passItems_ofItems items]
    rfl
  | .obj members => by
    rw [Reading.ofJson, Reading.pass, Reading.passMembers_ofMembers members]
    rfl

/-- Nothing is wrong with whole items. -/
theorem Reading.passItems_ofItems : (items : List Json) →
    Reading.passItems (Reading.ofItems items) = .ok ()
  | [] => by rw [Reading.ofItems, Reading.passItems]
  | j :: rest => by
    rw [Reading.ofItems, Reading.passItems, Reading.pass_ofJson j]
    exact Reading.passItems_ofItems rest

/-- Nothing is wrong with whole members. -/
theorem Reading.passMembers_ofMembers : (members : List (String × Json)) →
    Reading.passMembers (Reading.ofMembers members) = .ok ()
  | [] => by rw [Reading.ofMembers, Reading.passMembers]
  | (key, j) :: rest => by
    rw [Reading.ofMembers, Reading.passMembers, Reading.passKey, Reading.pass_ofJson j]
    exact Reading.passMembers_ofMembers rest

end

/-! ## Records -/

/-- An object in which no key comes twice. -/
def IsObject (j : Json) : Prop := ∃ members, j = .obj members ∧ (members.map Prod.fst).Nodup

/-- What can be decoded passes the check for it. -/
theorem checked_of_ok {decode : Decoder α} {r : Reading} {a : α} (h : decode r = .ok a) :
    checked decode r = .ok () := by
  rw [checked, h]
  rfl

/-- A member that is there and holds a certain value passes a check for it. -/
theorem checked_of_get? {decode : Decoder α} {j value : Json} {name : String} {a : α}
    (h : j.get? name = some value) (hvalue : decode (Reading.ofJson value) = .ok a) :
    ∀ found, j.get? name = some found → checked decode (Reading.ofJson found) = .ok () := by
  intro found hfound
  rw [h] at hfound
  cases hfound
  exact checked_of_ok hvalue

section

variable {shape : List (String × (Reading → Except Problem Unit))} {found : Fields} {key : String}

/-- A member that is no field is passed over. -/
theorem collect_of_other (h : shape.lookup key = none) (j : Json)
    (rest : List (Reading × Reading)) :
    collect shape found ((.str key, Reading.ofJson j) :: rest) = collect shape found rest := by
  rw [collect, h, Reading.pass_ofJson]
  rfl

/-- A field that was not found before is kept. -/
theorem collect_of_field {check : Reading → Except Problem Unit} {r : Reading}
    (h : shape.lookup key = some check) (hnew : found.lookup key = none) (hcheck : check r = .ok ())
    (rest : List (Reading × Reading)) :
    collect shape found ((.str key, r) :: rest) = collect shape (found ++ [(key, r)]) rest := by
  rw [collect, h, hnew]
  dsimp only
  rw [hcheck]
  rfl

/-- Fields are collected from members with keys of their own. -/
theorem collect_ofMembers {members : List (String × Json)} (hkeys : (members.map Prod.fst).Nodup)
    (hchecks : ∀ field ∈ shape, ∀ j, members.lookup field.1 = some j →
      field.2 (Reading.ofJson j) = .ok ())
    (hfound : ∀ key ∈ members.map Prod.fst, found.lookup key = none) :
    ∃ fields, collect shape found (Reading.ofMembers members) = .ok fields ∧
      ∀ name ∈ shape.map Prod.fst,
        fields.lookup name = (found.lookup name).or ((members.lookup name).map Reading.ofJson) := by
  -- on the members, with the fields that were found before, none of which comes again
  induction members generalizing found with
  | nil => exact ⟨found, rfl, fun name _ => Option.or_none.symm⟩
  | cons member rest ih =>
    obtain ⟨key, j⟩ := member
    rw [List.map_cons, List.nodup_cons] at hkeys
    obtain ⟨hnew, hothers⟩ : found.lookup key = none ∧
        ∀ name ∈ rest.map Prod.fst, found.lookup name = none := List.forall_mem_cons.1 hfound
    have hkey : ((key, j) :: rest).lookup key = some j := by rw [lookup_cons_eq_ite, if_pos rfl]
    have hrest : ∀ name, name ≠ key → ((key, j) :: rest).lookup name = rest.lookup name :=
      fun name hname => by rw [lookup_cons_eq_ite, if_neg hname]
    have hlater : ∀ name ∈ rest.map Prod.fst, name ≠ key :=
      fun name hname heq => hkeys.1 (heq ▸ hname)
    have hrestchecks : ∀ field ∈ shape, ∀ j, rest.lookup field.1 = some j →
        field.2 (Reading.ofJson j) = .ok () := fun field hfield j' hj' =>
      hchecks field hfield j' <| (hrest _ (hlater _ (mem_keys_of_lookup (by simp [hj'])))).trans hj'
    rw [Reading.ofMembers]
    cases hshape : shape.lookup key with
    | none =>
      -- a member that is no field is passed over
      obtain ⟨fields, hfields, hlookup⟩ := ih hkeys.2 hrestchecks hothers
      refine ⟨fields, (collect_of_other hshape j _).trans hfields, fun name hname => ?_⟩
      have hne : name ≠ key := by
        rintro rfl
        obtain ⟨field, hfield, heq⟩ := List.mem_map.1 hname
        have hnone := List.lookup_eq_none_iff.1 hshape field hfield
        simp [heq] at hnone
      rw [hlookup name hname, hrest name hne]
    | some check =>
      -- a new field passes its check, and is found from now on
      have hcheck : check (Reading.ofJson j) = .ok () := by
        obtain ⟨before, after, rfl, -⟩ := List.lookup_eq_some_iff.1 hshape
        exact hchecks (key, check) (by simp) j hkey
      have hadded : ∀ name, (found ++ [(key, Reading.ofJson j)]).lookup name =
          (found.lookup name).or (if name = key then some (Reading.ofJson j) else none) := by
        intro name
        rw [List.lookup_append, lookup_cons_eq_ite]
        rfl
      have hfound' : ∀ name ∈ rest.map Prod.fst,
          (found ++ [(key, Reading.ofJson j)]).lookup name = none := fun name hname => by
        rw [hadded, hothers name hname, if_neg (hlater name hname)]
        rfl
      obtain ⟨fields, hfields, hlookup⟩ := ih hkeys.2 hrestchecks hfound'
      refine ⟨fields, (collect_of_field hshape hnew hcheck _).trans hfields, fun name hname => ?_⟩
      rw [hlookup name hname, hadded]
      by_cases hne : name = key
      · subst hne
        rw [if_pos rfl, hkey, hnew]
        rfl
      · rw [if_neg hne, hrest name hne, Option.or_none]

end

/-- **The fields of a record in a whole object** are its members of these names, if each holds what
it is checked for. -/
theorem Reading.record_ofJson {shape : List (String × (Reading → Except Problem Unit))} {j : Json}
    (hobject : j.IsObject)
    (hchecks : ∀ field ∈ shape, ∀ value, j.get? field.1 = some value →
      field.2 (Reading.ofJson value) = .ok ()) :
    ∃ fields, (Reading.ofJson j).record shape = .ok fields ∧
      ∀ name ∈ shape.map Prod.fst, fields.lookup name = (j.get? name).map Reading.ofJson := by
  obtain ⟨members, rfl, hkeys⟩ := hobject
  obtain ⟨fields, hfields, hlookup⟩ := collect_ofMembers hkeys hchecks fun _ _ => List.lookup_nil
  refine ⟨fields, ?_, hlookup⟩
  rw [Reading.ofJson, Reading.record, hfields]
  rfl

/-! ## Values -/

namespace Decoder

/-- What can be decoded and is not null is decoded as something that is there. -/
theorem option_of_ok {decode : Decoder α} {r : Reading} {a : α} (h : decode r = .ok a)
    (hnull : r ≠ .null) : Decoder.option decode r = .ok (some a) := by
  rw [Decoder.option, h]
  · rfl
  · exact hnull

/-- **A list in a whole array** has the items that stand there. -/
theorem list_ofJson {decode : Decoder α} {values : List α} {items : List Json}
    (h : List.Forall₂ (fun a j => decode (Reading.ofJson j) = .ok a) values items) :
    Decoder.list decode (Reading.ofJson (.arr items)) = .ok values := by
  have hmap : (Reading.ofItems items).mapM decode = .ok values := by
    induction h with
    | nil => rfl
    | cons hitem _ ih =>
      rw [Reading.ofItems, List.mapM_cons, hitem, ih]
      rfl
  rw [Reading.ofJson, Decoder.list, hmap]
  rfl

/-- An array of texts is decoded as the list of them. -/
theorem list_strs (texts : List String) :
    Decoder.list Decoder.str (Reading.ofJson (.strs texts)) = .ok texts :=
  list_ofJson <| List.forall₂_map_right_iff.2 <| List.forall₂_same.2 fun _ _ => rfl

end Decoder

end TokenAudit.Json

import SelectClause.Value

/-! # Values read as mappings

Where a mapping is expected, a record is one, and so is a sequence of pairs. A text counts as the
sequence of its characters and a record inside a sequence as the sequence of its keys. The keys of
a sequence of pairs may be texts, numbers, truth values or the absent value; a later pair replaces
the value of an equal earlier key, which keeps its place.

`fields_ofDict` says that a dictionary is read back as itself.
-/

namespace SelectClause

/-- Why a value is no mapping. -/
inductive MappingFault where
  /-- The value, one of its elements or one of the keys is of a kind that cannot serve. -/
  | unsuited
  /-- An element has another number of items than a key and a value. -/
  | elementLength (index length : Nat)
  deriving DecidableEq, Repr

/-- The sentence that tells why a value is no mapping. -/
def MappingFault.message : MappingFault → String
  | .unsuited => "not a mapping, nor a sequence of pairs"
  | .elementLength index length =>
      s!"dictionary update sequence element #{index} has length {length}; 2 is required"

/-- The items of a value that can be taken as a sequence. -/
def Value.items? : Value → Option (List Value)
  | .list items => some items
  | .record fields => some ((Dict.ofList fields).keys.map .text)
  | .text content => some (content.toList.map fun char => .text (String.singleton char))
  | _ => none

/-- A number or truth value as digits and the count of digits after the point. -/
def Value.number? : Value → Option (Int × Nat)
  | .bool truth => some (truth.toInt, 0)
  | .int number => some (number, 0)
  | .decimal negative digits places => some (if negative then -digits else digits, places)
  | _ => none

/-- Whether two values are one key: numbers are compared by what they amount to. -/
def Value.sameKey : Value → Value → Bool
  | .text first, .text second => first == second
  | .null, .null => true
  | first, second =>
      match first.number?, second.number? with
      | some (digits, places), some (otherDigits, otherPlaces) =>
          digits * Nat.pow 10 otherPlaces == otherDigits * Nat.pow 10 places
      | _, _ => false

/-- Whether a value can be a key. -/
def Value.canBeKey : Value → Bool
  | .list _ => false
  | .record _ => false
  | _ => true

/-- A mapping whose keys need not be texts, in the order in which the keys were first given. -/
structure Mapping where
  entries : List (Value × Value)

namespace Mapping

/-- The mapping with the entries of a dictionary. -/
def ofDict (fields : Dict Value) : Mapping :=
  ⟨fields.toList.map fun entry => (.text entry.1, entry.2)⟩

/-- Gives a key a value: in the place of an equal key, else at the end. -/
def insertEntry (key value : Value) : List (Value × Value) → List (Value × Value)
  | [] => [(key, value)]
  | (other, old) :: rest =>
      if other.sameKey key then (other, value) :: rest
      else (other, old) :: insertEntry key value rest

/-- The key and the value that an element of a sequence stands for. -/
def pairOf (element : Value) (index : Nat) : Except MappingFault (Value × Value) :=
  match element.items? with
  | none => .error .unsuited
  | some [key, value] => if key.canBeKey then .ok (key, value) else .error .unsuited
  | some items => .error (.elementLength index items.length)

/-- The mapping of a sequence of pairs; the first element that is none decides the fault. -/
def ofElements (elements : List Value) : Except MappingFault Mapping := do
  let pairs ← elements.zipIdx.mapM fun element => pairOf element.1 element.2
  return ⟨pairs.foldl (fun entries pair => insertEntry pair.1 pair.2 entries) []⟩

/-- The mapping that a value stands for, which is a record or a sequence of pairs. -/
def ofValue (value : Value) : Except MappingFault Mapping :=
  match value.fields?, value.items? with
  | some fields, _ => .ok (ofDict fields)
  | none, some elements => ofElements elements
  | none, none => .error .unsuited

/-- The entries whose keys are texts. -/
def fields (mapping : Mapping) : Dict Value :=
  Dict.ofList <| mapping.entries.filterMap fun
    | (.text key, value) => some (key, value)
    | _ => none

/-- The keys that are no texts. -/
def strayKeys (mapping : Mapping) : List Value :=
  mapping.entries.filterMap fun
    | (.text _, _) => none
    | (key, _) => some key

@[simp] theorem fields_ofDict (dict : Dict Value) : (ofDict dict).fields = dict := by
  rw [fields, ofDict, List.filterMap_map]
  show Dict.ofList (dict.toList.filterMap some) = dict
  rw [List.filterMap_some, Dict.ofList_toList]

@[simp] theorem strayKeys_ofDict (dict : Dict Value) : (ofDict dict).strayKeys = [] := by
  simp [strayKeys, ofDict]

@[simp] theorem ofValue_ofDict (dict : Dict Value) :
    ofValue (Value.ofDict dict) = .ok (ofDict dict) := by
  simp [ofValue]

end Mapping

end SelectClause

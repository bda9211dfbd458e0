/-!
# JSON values

Values whose objects keep the order in which their members were written. A number keeps its kind: an
integer of up to 64 bits is an `int`, every other number a double, held by its bits so that equality of
values is decided by their representation.

Main definitions:
* `Json` : the values;
* `Json.Fields` : the members of an object, in document order;
* `Fields.insert` : a repeated key keeps the place of its first and the value of its last occurrence;
* `Fields.get?`, `Fields.keys` : look-up and the keys in order.

Main statements: `Fields.keys_insert` says where a key ends up, `Fields.get?_insert` what it stands for.
-/

namespace ProfileBindings

/-- A JSON value. -/
inductive Json where
  | null
  | bool (b : Bool)
  | int (n : Int)
  | float (bits : UInt64)
  | str (s : String)
  | arr (items : List Json)
  | obj (fields : List (String × Json))
deriving Inhabited

namespace Json

/-- The members of an object in document order. -/
abbrev Fields := List (String × Json)

namespace Fields

/-- The value that a key stands for. -/
def get? (key : String) : Fields → Option Json
  | [] => none
  | (k, v) :: rest => if k = key then some v else get? key rest

/-- Give a key its value: in the place where it already stands, otherwise at the end. -/
def insert (key : String) (value : Json) : Fields → Fields
  | [] => [(key, value)]
  | (k, v) :: rest => if k = key then (k, value) :: rest else (k, v) :: insert key value rest

/-- The keys in document order. -/
def keys (fields : Fields) : List String := fields.map Prod.fst

theorem keys_insert (key : String) (value : Json) (fields : Fields) :
    (insert key value fields).keys =
      if key ∈ fields.keys then fields.keys else fields.keys ++ [key] := by
  induction fields with
  | nil => simp [insert, keys]
  | cons field rest ih =>
    obtain ⟨k, v⟩ := field
    by_cases h : k = key
    · simp [insert, keys, h]
    · have h' : ¬key = k := fun e => h e.symm
      simp only [insert, h, if_false]
      simp only [keys, List.map_cons, List.mem_cons, h', false_or] at ih ⊢
      by_cases hm : key ∈ List.map Prod.fst rest <;> simp [ih, hm]

theorem get?_insert (key other : String) (value : Json) (fields : Fields) :
    (insert key value fields).get? other =
      if key = other then some value else fields.get? other := by
  induction fields with
  | nil => simp [insert, get?]
  | cons field rest ih =>
    obtain ⟨k, v⟩ := field
    by_cases h : k = key
    · by_cases h' : k = other <;> simp_all [insert, get?]
    · by_cases h' : k = other
      · subst h'
        have ne : ¬key = k := fun e => h e.symm
        simp [insert, get?, h, ne]
      · simp [insert, get?, h, h', ih]

theorem nodup_keys_insert {key : String} {value : Json} {fields : Fields} (h : fields.keys.Nodup) :
    (insert key value fields).keys.Nodup := by
  rw [keys_insert]
  split
  · exact h
  · next hk =>
    rw [List.nodup_append]
    refine ⟨h, by simp, ?_⟩
    intro a ha b hb hab
    simp only [List.mem_singleton] at hb
    exact hk (hb ▸ hab ▸ ha)

end Fields

/-- The members of an object; other values have none. -/
def fields? : Json → Option Fields
  | obj fields => some fields
  | _ => none

/-- The value under a key of an object. -/
def get? (key : String) : Json → Option Json
  | obj fields => Fields.get? key fields
  | _ => none

end Json

end ProfileBindings

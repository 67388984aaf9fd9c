/-! Maps that keep the order in which keys were first inserted, as lists of entries. -/
namespace ScenarioCheck.Ordered

variable {κ α β : Type} [DecidableEq κ]

def get? (key : κ) : List (κ × α) → Option α
  | [] => none
  | (k, v) :: rest => if k = key then some v else get? key rest

/-- Sets a key. A key that is present keeps its place, a new one goes to the end. -/
def put (key : κ) (value : α) : List (κ × α) → List (κ × α)
  | [] => [(key, value)]
  | (k, v) :: rest => if k = key then (k, value) :: rest else (k, v) :: put key value rest

/-- Sets the keys of a list of entries one after the other. -/
def putAll (entries updates : List (κ × α)) : List (κ × α) :=
  updates.foldl (fun m e => put e.1 e.2 m) entries

/-- The map of a list of entries, later values winning. -/
def ofList (entries : List (κ × α)) : List (κ × α) := putAll [] entries

def erase (key : κ) (entries : List (κ × α)) : List (κ × α) := entries.filter (·.1 ≠ key)

def keys (entries : List (κ × α)) : List κ := entries.map (·.1)

omit [DecidableEq κ] in
@[simp] theorem keys_nil : keys ([] : List (κ × α)) = [] := rfl

omit [DecidableEq κ] in
@[simp] theorem keys_cons (e : κ × α) (m : List (κ × α)) : keys (e :: m) = e.1 :: keys m := rfl

omit [DecidableEq κ] in
@[simp] theorem keys_append (m m' : List (κ × α)) : keys (m ++ m') = keys m ++ keys m' :=
  List.map_append

@[simp] theorem get?_nil (key : κ) : get? key ([] : List (κ × α)) = none := rfl

@[simp] theorem get?_cons (key k : κ) (v : α) (m : List (κ × α)) :
    get? key ((k, v) :: m) = if k = key then some v else get? key m := rfl

@[simp] theorem put_nil (key : κ) (value : α) : put key value [] = [(key, value)] := rfl

@[simp] theorem put_cons (key k : κ) (value v : α) (m : List (κ × α)) :
    put key value ((k, v) :: m) = if k = key then (k, value) :: m else (k, v) :: put key value m :=
  rfl

@[simp] theorem putAll_nil (m : List (κ × α)) : putAll m [] = m := rfl

@[simp] theorem putAll_cons (m updates : List (κ × α)) (e : κ × α) :
    putAll m (e :: updates) = putAll (put e.1 e.2 m) updates := rfl

@[simp] theorem get?_put_self (key : κ) (value : α) (m : List (κ × α)) :
    get? key (put key value m) = some value := by
  induction m with
  | nil => simp
  | cons e rest ih =>
    obtain ⟨k, v⟩ := e
    by_cases h : k = key <;> simp [h, ih]

@[simp] theorem get?_put_ne {key key' : κ} (h : key' ≠ key) (value : α) (m : List (κ × α)) :
    get? key' (put key value m) = get? key' m := by
  induction m with
  | nil => simp [Ne.symm h]
  | cons e rest ih =>
    obtain ⟨k, v⟩ := e
    by_cases hk : k = key
    · subst hk; simp [Ne.symm h]
    · by_cases hk' : k = key'
      · subst hk'; simp [hk]
      · simp [hk, hk', ih]

@[simp] theorem get?_eq_none_iff {key : κ} {m : List (κ × α)} :
    get? key m = none ↔ key ∉ keys m := by
  induction m with
  | nil => simp
  | cons e rest ih =>
    obtain ⟨k, v⟩ := e
    by_cases h : k = key
    · simp [h]
    · simp_all [Ne.symm h]

/-- Setting a present key keeps the keys, setting a new one adds it at the end. -/
@[simp] theorem keys_put (key : κ) (value : α) (m : List (κ × α)) :
    keys (put key value m) = if key ∈ keys m then keys m else keys m ++ [key] := by
  induction m with
  | nil => simp
  | cons e rest ih =>
    obtain ⟨k, v⟩ := e
    by_cases h : k = key
    · simp [h]
    · simp only [put_cons, h, if_false, keys_cons, ih, List.mem_cons, Ne.symm h, false_or]
      split <;> rfl

end ScenarioCheck.Ordered

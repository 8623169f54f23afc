/-!
# Maps that keep the order of their keys

A map is a list of entries with distinct keys, in the order in which the keys were first
put in.  Putting in a key again changes its value and not its place.
-/

namespace DocComments

/-- **A map that keeps the order** in which its keys were first put in. -/
abbrev OrderedMap (κ α : Type) := List (κ × α)

namespace OrderedMap

variable {κ α : Type} [DecidableEq κ]

/-- Gives `key` the value `value`: in its old place if the map has the key, else at the end. -/
def insert (key : κ) (value : α) : OrderedMap κ α → OrderedMap κ α
  | [] => [(key, value)]
  | (k, v) :: more =>
      if k = key then (k, value) :: more else (k, v) :: insert key value more

/-- The map made of the entries in order. -/
def ofEntries (entries : List (κ × α)) : OrderedMap κ α :=
  entries.foldl (fun m e => insert e.1 e.2 m) []

/-- The value of a key. -/
def get? (key : κ) : OrderedMap κ α → Option α
  | [] => none
  | (k, v) :: more => if k = key then some v else get? key more

/-- The keys in order. -/
def keys (m : OrderedMap κ α) : List κ :=
  m.map (·.1)

theorem get?_insert_self (key : κ) (value : α) (m : OrderedMap κ α) :
    get? key (insert key value m) = some value := by
  induction m with
  | nil => simp [insert, get?]
  | cons e more ih =>
      obtain ⟨k, v⟩ := e
      by_cases h : k = key <;> simp [insert, get?, h, ih]

theorem get?_insert_of_ne {key other : κ} (h : other ≠ key) (value : α)
    (m : OrderedMap κ α) : get? other (insert key value m) = get? other m := by
  induction m with
  | nil => simp [insert, get?, h.symm]
  | cons e more ih =>
      obtain ⟨k, v⟩ := e
      by_cases hk : k = key
      · subst hk
        simp [insert, get?, h.symm]
      · simp [insert, get?, hk, ih]

/-- Giving a key the value that it has changes nothing. -/
theorem insert_of_get? {key : κ} {value : α} {m : OrderedMap κ α} (h : get? key m = some value) :
    insert key value m = m := by
  induction m with
  | nil => exact absurd h (by simp [get?])
  | cons e more ih =>
      obtain ⟨k, v⟩ := e
      by_cases hk : k = key
      · simp_all [insert, get?]
      · rw [get?, if_neg hk] at h
        rw [insert, if_neg hk, ih h]

/-- The first of two maps that has the key tells its value. -/
theorem get?_append (key : κ) (m m' : OrderedMap κ α) :
    get? key (m ++ m') = (get? key m).or (get? key m') := by
  induction m with
  | nil => rfl
  | cons e more ih =>
      obtain ⟨k, v⟩ := e
      by_cases h : k = key
      · simp [get?, h]
      · simp [get?, h, ih]

theorem get?_eq_none {key : κ} {m : OrderedMap κ α} (h : key ∉ keys m) : get? key m = none := by
  induction m with
  | nil => rfl
  | cons e more ih =>
      obtain ⟨k, v⟩ := e
      obtain ⟨hne, hmore⟩ := not_or.1 (mt List.mem_cons.2 h)
      rw [get?, if_neg (Ne.symm hne), ih hmore]

/-- A key that is there keeps its place; a new one goes to the end. -/
theorem keys_insert (key : κ) (value : α) (m : OrderedMap κ α) :
    keys (insert key value m) = if key ∈ keys m then keys m else keys m ++ [key] := by
  induction m with
  | nil => simp [insert, keys]
  | cons e more ih =>
      obtain ⟨k, v⟩ := e
      by_cases h : k = key
      · simp [insert, keys, h]
      · have h' : key ≠ k := fun e => h e.symm
        simp only [insert, h, if_false, keys, List.map_cons, List.mem_cons, h', false_or] at ih ⊢
        rw [ih]
        split <;> simp_all

/-! ### What entries come to -/

theorem nodup_keys_insert {m : OrderedMap κ α} (h : (keys m).Nodup) (key : κ) (value : α) :
    (keys (insert key value m)).Nodup := by
  rw [keys_insert]
  split
  · exact h
  · next hnew =>
      refine List.nodup_append.2 ⟨h, by simp, fun k hk k' hk' => ?_⟩
      obtain rfl := List.mem_singleton.1 hk'
      rintro rfl
      exact hnew hk

/-- **A map is told by its keys and their values.** -/
theorem eq_filterMap_keys {m : OrderedMap κ α} (h : (keys m).Nodup) :
    m = (keys m).filterMap fun k => (get? k m).map (k, ·) := by
  induction m with
  | nil => rfl
  | cons e more ih =>
      obtain ⟨k, v⟩ := e
      obtain ⟨hnew, hmore⟩ := List.nodup_cons.1 h
      -- the first entry has nothing to say of the other keys
      have hothers : ∀ ks : List κ, k ∉ ks →
          ks.filterMap (fun k' => (get? k' ((k, v) :: more)).map (k', ·)) =
            ks.filterMap fun k' => (get? k' more).map (k', ·) := by
        intro ks hks
        induction ks with
        | nil => rfl
        | cons k' ks ih =>
            rw [List.mem_cons, not_or] at hks
            obtain ⟨hne, hks⟩ := hks
            rw [List.filterMap_cons, List.filterMap_cons, ih hks, get?, if_neg hne]
      have hfirst : get? k ((k, v) :: more) = some v := by simp [get?]
      rw [keys, List.map_cons, List.filterMap_cons, hfirst]
      exact congrArg ((k, v) :: ·) ((ih hmore).trans (hothers _ hnew).symm)

theorem ofEntries_concat (entries : List (κ × α)) (e : κ × α) :
    ofEntries (entries ++ [e]) = insert e.1 e.2 (ofEntries entries) := by
  rw [ofEntries, List.foldl_append, List.foldl_cons, List.foldl_nil, ofEntries]

/-- The keys stand in the order in which they come first. -/
theorem keys_ofEntries (entries : List (κ × α)) :
    keys (ofEntries entries) = (keys entries).eraseDups := by
  -- entry by entry, the last one at the end
  obtain ⟨r, rfl⟩ : ∃ r, entries = r.reverse := ⟨entries.reverse, by simp⟩
  induction r with
  | nil => rfl
  | cons e r ih =>
      have hkeys : keys (r.reverse ++ [e]) = keys r.reverse ++ [e.1] := List.map_append
      rw [List.reverse_cons, ofEntries_concat, keys_insert, ih, hkeys, List.eraseDups_append]
      by_cases h : e.1 ∈ keys r.reverse
      · simp [h, List.removeAll]
      · simp [h, List.removeAll, List.eraseDups_cons]

/-- Each key has the value that it was given last. -/
theorem get?_ofEntries (key : κ) (entries : List (κ × α)) :
    get? key (ofEntries entries) = get? key entries.reverse := by
  obtain ⟨r, rfl⟩ : ∃ r, entries = r.reverse := ⟨entries.reverse, by simp⟩
  rw [List.reverse_reverse]
  induction r with
  | nil => rfl
  | cons e r ih =>
      obtain ⟨k, v⟩ := e
      rw [List.reverse_cons, ofEntries_concat, get?]
      split
      · next heq => rw [← heq, get?_insert_self]
      · next hne => rw [get?_insert_of_ne (Ne.symm hne), ih]

theorem nodup_keys_ofEntries (entries : List (κ × α)) : (keys (ofEntries entries)).Nodup := by
  obtain ⟨r, rfl⟩ : ∃ r, entries = r.reverse := ⟨entries.reverse, by simp⟩
  induction r with
  | nil => exact List.nodup_nil
  | cons e r ih =>
      rw [List.reverse_cons, ofEntries_concat]
      exact nodup_keys_insert ih e.1 e.2

/-- **A map made of entries has each key in its first place, with its last value.** -/
theorem ofEntries_eq (entries : List (κ × α)) :
    ofEntries entries =
      (keys entries).eraseDups.filterMap fun k => (get? k entries.reverse).map (k, ·) := by
  rw [eq_filterMap_keys (nodup_keys_ofEntries entries), keys_ofEntries]
  simp only [get?_ofEntries]

/-- A new key goes to the end. -/
theorem insert_of_notMem {key : κ} {m : OrderedMap κ α} (h : key ∉ keys m) (value : α) :
    insert key value m = m ++ [(key, value)] := by
  induction m with
  | nil => rfl
  | cons e more ih =>
      obtain ⟨k, v⟩ := e
      obtain ⟨hne, hmore⟩ := not_or.1 (mt List.mem_cons.2 h)
      rw [insert, if_neg (Ne.symm hne), ih hmore, List.cons_append]

/-- Entries with distinct keys are the map that they make. -/
theorem ofEntries_of_nodup {entries : List (κ × α)} (h : (keys entries).Nodup) :
    ofEntries entries = entries := by
  obtain ⟨r, rfl⟩ : ∃ r, entries = r.reverse := ⟨entries.reverse, by simp⟩
  induction r with
  | nil => rfl
  | cons e r ih =>
      rw [List.reverse_cons, keys, List.map_append] at h
      obtain ⟨hmore, -, hnew⟩ := List.nodup_append.1 h
      have hkey : e.1 ∉ keys r.reverse := fun hmem => hnew e.1 hmem e.1 List.mem_cons_self rfl
      rw [List.reverse_cons, ofEntries_concat, ih hmore, insert_of_notMem hkey]

theorem mem_of_mem_insert {key : κ} {value : α} {m : OrderedMap κ α} {e : κ × α}
    (h : e ∈ insert key value m) : e = (key, value) ∨ e ∈ m := by
  induction m with
  | nil => exact .inl (List.mem_singleton.1 h)
  | cons first more ih =>
      obtain ⟨k, v⟩ := first
      rw [insert] at h
      split at h
      · next heq =>
          subst heq
          exact (List.mem_cons.1 h).imp id (List.mem_cons_of_mem _)
      · rcases List.mem_cons.1 h with rfl | h
        · exact .inr List.mem_cons_self
        · exact (ih h).imp id (List.mem_cons_of_mem _)

/-- A map has no entries but those that it was made of. -/
theorem mem_of_mem_ofEntries {entries : List (κ × α)} {e : κ × α} (h : e ∈ ofEntries entries) :
    e ∈ entries := by
  obtain ⟨r, rfl⟩ : ∃ r, entries = r.reverse := ⟨entries.reverse, by simp⟩
  induction r with
  | nil => exact absurd h List.not_mem_nil
  | cons last r ih =>
      rw [List.reverse_cons, ofEntries_concat] at h
      rw [List.reverse_cons]
      rcases mem_of_mem_insert h with rfl | h
      · exact List.mem_append_right _ List.mem_cons_self
      · exact List.mem_append_left _ (ih h)

theorem mem_of_get? {key : κ} {value : α} {m : OrderedMap κ α} (h : get? key m = some value) :
    (key, value) ∈ m := by
  induction m with
  | nil => exact absurd h (by simp [get?])
  | cons e more ih =>
      obtain ⟨k, v⟩ := e
      rw [get?] at h
      split at h
      · next heq =>
          obtain rfl := Option.some.inj h
          rw [heq]
          exact List.mem_cons_self
      · exact List.mem_cons_of_mem _ (ih h)

/-! ### Changing the values -/

section Values

variable {β : Type} (f : α → β)

theorem insert_map (key : κ) (value : α) (m : OrderedMap κ α) :
    insert key (f value) (m.map (Prod.map id f)) = (insert key value m).map (Prod.map id f) := by
  induction m with
  | nil => rfl
  | cons e more ih =>
      obtain ⟨k, v⟩ := e
      by_cases h : k = key
      · simp [insert, h]
      · simp [insert, h, ih]

theorem ofEntries_map (entries : List (κ × α)) :
    ofEntries (entries.map (Prod.map id f)) = (ofEntries entries).map (Prod.map id f) := by
  -- what has been put in so far stays general
  have hfold : ∀ m : OrderedMap κ α,
      (entries.map (Prod.map id f)).foldl (fun m e => insert e.1 e.2 m) (m.map (Prod.map id f)) =
        (entries.foldl (fun m e => insert e.1 e.2 m) m).map (Prod.map id f) := by
    induction entries with
    | nil => exact fun m => rfl
    | cons e entries ih =>
        intro m
        rw [List.map_cons, List.foldl_cons, List.foldl_cons, Prod.map_fst, Prod.map_snd, id,
          insert_map f, ih]
  exact hfold []

theorem get?_map (key : κ) (m : OrderedMap κ α) :
    get? key (m.map (Prod.map id f)) = (get? key m).map f := by
  induction m with
  | nil => rfl
  | cons e more ih =>
      obtain ⟨k, v⟩ := e
      by_cases h : k = key
      · simp [get?, h]
      · simp [get?, h, ih]

end Values

end OrderedMap

end DocComments

import TwoPcEngine.Db

/-! The statements `applySQLAction` renders, against the form the spec gives them: quoted
lower-case identifiers, values only as positional arguments. -/

namespace TwoPc.Sql

variable {P V : Type}

/-- The check `safeIdent` makes before lowering: non-empty, characters from `[A-Za-z0-9_-]`. -/
def identOk (id : String) : Bool := id != "" && id.toList.all isIdentChar

def isLowerIdentChar (r : Char) : Bool :=
  r = '_' || r = '-' || ('0' ≤ r && r ≤ '9') || ('a' ≤ r && r ≤ 'z')

def quoteIdent (ident : String) : String := "\"" ++ ident ++ "\""

def assignments (cs : List String) (s : Nat) : List String :=
  List.zipWith (fun c i => quoteIdent c ++ "=$" ++ toString i) cs (List.range' s cs.length)

def insertText (table : String) (cs : List String) : String :=
  "INSERT INTO \"" ++ table ++ "\" (" ++ ",".intercalate (cs.map quoteIdent) ++
    ") VALUES (" ++ ",".intercalate ((List.range' 1 cs.length).map fun i => "$" ++ toString i) ++ ")"

def updateText (table : String) (cs ws : List String) : String :=
  "UPDATE \"" ++ table ++ "\" SET " ++ ",".intercalate (assignments cs 1) ++ " WHERE " ++
    " AND ".intercalate (assignments ws (cs.length + 1))

/-- The statement the spec describes for an accepted action: sorted keys, lower-cased and
quoted, every value bound to its placeholder in the same order. -/
def specStatement (a : SQLAction V) : Stmt V :=
  let cs := sortedKeys a.values
  let ws := sortedKeys a.where_
  if a.operation = "INSERT" then
    ⟨insertText (toLower a.table) (cs.map toLower), cs.map a.values.lookup⟩
  else
    ⟨updateText (toLower a.table) (cs.map toLower) (ws.map toLower),
      cs.map a.values.lookup ++ ws.map a.where_.lookup⟩

def statementIdents (a : SQLAction V) : List String :=
  toLower a.table :: (sortedKeys a.values).map toLower ++
    if a.operation = "UPDATE" then (sortedKeys a.where_).map toLower else []

def IdentsOk (a : SQLAction V) : Prop :=
  identOk a.table = true ∧ (∀ k ∈ a.values.keys, identOk k = true) ∧
    (a.operation = "UPDATE" → ∀ k ∈ a.where_.keys, identOk k = true)

/-! ### Identifiers -/

theorem safeIdent_of_identOk {id : String} (h : identOk id = true) :
    safeIdent id = .ok (toLower id) := by
  simp only [identOk, Bool.and_eq_true, bne_iff_ne, ne_eq] at h
  simp only [safeIdent, h.1, h.2, if_false, if_true]

theorem safeIdent_error {id : String} (h : identOk id = false) : ∃ e, safeIdent id = .error e := by
  unfold safeIdent
  split
  · exact ⟨_, rfl⟩
  · rename_i hne
    have hc : id.toList.all isIdentChar = false := by simpa [identOk, hne] using h
    simp only [hc, Bool.false_eq_true, if_false]
    exact ⟨_, rfl⟩

theorem char_eq_iff {a b : Char} : a = b ↔ a.toNat = b.toNat :=
  ⟨fun h => h ▸ rfl, fun h => Char.ext (UInt32.toNat.inj h)⟩

theorem char_le_iff {a b : Char} : a ≤ b ↔ a.toNat ≤ b.toNat := Iff.rfl

theorem toNat_toLower (c : Char) :
    c.toLower.toNat = if 65 ≤ c.toNat ∧ c.toNat ≤ 90 then c.toNat + 32 else c.toNat := by
  unfold Char.toLower
  split
  · rename_i h
    have hv : (c.toNat + 32).isValidChar := Or.inl (by omega)
    simp only [h, and_self, ite_true, Char.ofNat, dif_pos hv]
    rfl
  · simp only [*, ite_false]

theorem isLowerIdentChar_toLower {c : Char} (h : isIdentChar c = true) :
    isLowerIdentChar c.toLower = true := by
  have h₁ : ('_'.toNat, '-'.toNat, '0'.toNat, '9'.toNat) = (95, 45, 48, 57) := rfl
  have h₂ : ('a'.toNat, 'z'.toNat, 'A'.toNat, 'Z'.toNat) = (97, 122, 65, 90) := rfl
  simp only [Prod.mk.injEq] at h₁ h₂
  simp only [isIdentChar, isLowerIdentChar, Bool.or_eq_true, Bool.and_eq_true, decide_eq_true_eq,
    char_eq_iff, char_le_iff, toNat_toLower] at h ⊢
  split <;> omega

theorem toLower_lowerIdent {id : String} (h : identOk id = true) :
    (toLower id).toList.all isLowerIdentChar = true := by
  simp only [identOk, Bool.and_eq_true, List.all_eq_true] at h
  show (id.toList.map Char.toLower).all isLowerIdentChar = true
  simpa only [List.all_map, List.all_eq_true, Function.comp_apply] using
    fun c hc => isLowerIdentChar_toLower (h.2 c hc)

/-! ### The two loops -/

theorem insertCols_ok (m : GoMap V) (i : Nat) {cs : List String}
    (h : ∀ c ∈ cs, identOk c = true) :
    insertCols m i cs = .ok ((cs.map toLower).map quoteIdent, cs.map m.lookup,
      (List.range' (i + 1) cs.length).map placeholder) := by
  induction cs generalizing i with
  | nil => rfl
  | cons c cs ih =>
    simp only [List.forall_mem_cons] at h
    simp only [insertCols, safeIdent_of_identOk h.1, ih (i + 1) h.2, List.map_cons,
      List.length_cons, List.range'_succ]
    rfl

theorem insertCols_error (m : GoMap V) (i : Nat) {cs : List String}
    (h : ∃ c ∈ cs, identOk c = false) : ∃ e, insertCols m i cs = .error e := by
  induction cs generalizing i with
  | nil => simp at h
  | cons c cs ih =>
    simp only [insertCols]
    cases hc : identOk c
    · obtain ⟨e, he⟩ := safeIdent_error hc
      exact ⟨e, by simp only [he]; rfl⟩
    · have h' : ∃ c ∈ cs, identOk c = false := by simpa [hc] using h
      obtain ⟨e, he⟩ := ih (i + 1) h'
      exact ⟨e, by simp only [safeIdent_of_identOk hc, he]; rfl⟩

theorem bindCols_ok (m : GoMap V) (idx : Nat) {cs : List String}
    (h : ∀ c ∈ cs, identOk c = true) :
    bindCols m idx cs = .ok (assignments (cs.map toLower) idx, cs.map m.lookup, idx + cs.length) := by
  induction cs generalizing idx with
  | nil => rfl
  | cons c cs ih =>
    simp only [List.forall_mem_cons] at h
    have hs : ∀ x : String, "\"=" ++ ("$" ++ x) = "\"" ++ ("=$" ++ x) := fun x => by
      simp only [← String.append_assoc]; rfl
    simp only [bindCols, safeIdent_of_identOk h.1, ih (idx + 1) h.2, assignments, List.map_cons,
      List.length_cons, List.length_map, List.range'_succ, List.zipWith_cons_cons, placeholder,
      quoteIdent, String.append_assoc, hs, Nat.add_right_comm idx 1]
    rfl

theorem bindCols_error (m : GoMap V) (idx : Nat) {cs : List String}
    (h : ∃ c ∈ cs, identOk c = false) : ∃ e, bindCols m idx cs = .error e := by
  induction cs generalizing idx with
  | nil => simp at h
  | cons c cs ih =>
    simp only [bindCols]
    cases hc : identOk c
    · obtain ⟨e, he⟩ := safeIdent_error hc
      exact ⟨e, by simp only [he]; rfl⟩
    · have h' : ∃ c ∈ cs, identOk c = false := by simpa [hc] using h
      obtain ⟨e, he⟩ := ih (idx + 1) h'
      exact ⟨e, by simp only [safeIdent_of_identOk hc, he]; rfl⟩

/-! ### Accepted actions -/

theorem validateSQLAction_ok {a : SQLAction V} (h : validateSQLAction a = .ok ()) :
    a.table ≠ "" ∧ a.values.entries ≠ [] ∧
      (a.operation = "INSERT" ∨ a.operation = "UPDATE" ∧ a.where_.entries ≠ []) := by
  unfold validateSQLAction at h
  by_cases h1 : a.table = ""
  · rw [if_pos h1] at h; cases h
  by_cases h2 : a.values.entries = []
  · rw [if_neg h1, if_pos (List.isEmpty_iff.mpr h2)] at h; cases h
  rw [if_neg h1, if_neg (mt List.isEmpty_iff.mp h2)] at h
  by_cases h3 : a.operation = "INSERT"
  · exact ⟨h1, h2, .inl h3⟩
  by_cases h4 : a.operation = "UPDATE"
  · refine ⟨h1, h2, .inr ⟨h4, fun h5 => ?_⟩⟩
    rw [if_neg h3, if_pos h4, if_pos (List.isEmpty_iff.mpr h5)] at h; cases h
  · rw [if_neg h3, if_neg h4] at h; cases h

theorem parseSQLAction_valid {codec : Codec P V} {p : Option P} {a : SQLAction V}
    (h : parseSQLAction codec p = .ok a) : validateSQLAction a = .ok () := by
  cases p with
  | none => cases h
  | some p =>
    obtain ⟨x, -, hx⟩ := bind_eq_ok.mp h
    obtain ⟨u, hu, hpure⟩ := bind_eq_ok.mp hx
    cases hpure
    exact hu

theorem mem_sortedKeys {m : GoMap V} {k : String} : k ∈ sortedKeys m ↔ k ∈ m.keys :=
  (sortStrings_perm _).mem_iff

theorem sortedKeys_ne_nil {m : GoMap V} (h : m.entries ≠ []) : (sortedKeys m).length ≠ 0 := by
  rw [sortedKeys, (sortStrings_perm _).length_eq, AList.keys, List.keys, List.length_map]
  simpa using h

theorem applySQLAction_eq_spec {a : SQLAction V} (hv : validateSQLAction a = .ok ())
    (hs : IdentsOk a) : applySQLAction a = .ok (specStatement a) := by
  obtain ⟨-, -, hop⟩ := validateSQLAction_ok hv
  obtain ⟨ht, hk, hw⟩ := hs
  have hk' : ∀ c ∈ sortedKeys a.values, identOk c = true := fun c hc => hk c (mem_sortedKeys.mp hc)
  rcases hop with hop | ⟨hop, hne⟩
  · simp only [applySQLAction, safeIdent_of_identOk ht, hop, if_true, insertCols_ok _ _ hk',
      specStatement, insertText, List.length_map]
    rfl
  · have hw' : ∀ c ∈ sortedKeys a.where_, identOk c = true :=
      fun c hc => hw hop c (mem_sortedKeys.mp hc)
    have hni : a.operation ≠ "INSERT" := by rw [hop]; decide
    simp only [applySQLAction, safeIdent_of_identOk ht, hop, if_neg hni, if_true,
      sortedKeys_ne_nil hne, bindCols_ok _ _ hk', bindCols_ok _ _ hw', specStatement, updateText,
      List.length_map, Nat.add_comm 1]
    rfl

theorem applySQLAction_error {a : SQLAction V} (hv : validateSQLAction a = .ok ())
    (hs : ¬ IdentsOk a) : ∃ e, applySQLAction a = .error e := by
  obtain ⟨-, -, hop⟩ := validateSQLAction_ok hv
  cases ht : identOk a.table
  · obtain ⟨e, he⟩ := safeIdent_error ht
    exact ⟨e, by simp only [applySQLAction, he]; rfl⟩
  have hbad : (∃ k ∈ sortedKeys a.values, identOk k = false) ∨
      (a.operation = "UPDATE" ∧ ∃ k ∈ sortedKeys a.where_, identOk k = false) := by
    simp only [mem_sortedKeys]
    by_contra hc
    push_neg at hc
    exact hs ⟨ht, fun k hk => by simpa using hc.1 k hk, fun hu k hk => by simpa using hc.2 hu k hk⟩
  rcases hop with hop | ⟨hop, hne⟩
  · have hk : ∃ k ∈ sortedKeys a.values, identOk k = false := by
      rcases hbad with h | ⟨hu, -⟩
      · exact h
      · exact absurd (hop.symm.trans hu) (by decide)
    obtain ⟨e, he⟩ := insertCols_error a.values 0 hk
    exact ⟨e, by simp only [applySQLAction, safeIdent_of_identOk ht, hop, if_true, he]; rfl⟩
  have hni : a.operation ≠ "INSERT" := by rw [hop]; decide
  by_cases hk : ∃ k ∈ sortedKeys a.values, identOk k = false
  · obtain ⟨e, he⟩ := bindCols_error a.values 1 hk
    exact ⟨e, by simp only [applySQLAction, safeIdent_of_identOk ht, if_neg hni, if_pos hop,
      sortedKeys_ne_nil hne, if_false, he]; rfl⟩
  have hk' : ∀ c ∈ sortedKeys a.values, identOk c = true := by push_neg at hk; simpa using hk
  have hw : ∃ k ∈ sortedKeys a.where_, identOk k = false := by
    rcases hbad with h | ⟨-, h⟩
    · exact absurd h hk
    · exact h
  obtain ⟨e, he⟩ := bindCols_error a.where_ (1 + (sortedKeys a.values).length) hw
  exact ⟨e, by simp only [applySQLAction, safeIdent_of_identOk ht, if_neg hni, if_pos hop,
    sortedKeys_ne_nil hne, if_false, bindCols_ok _ _ hk']; simp only [bind, Except.bind, he]; rfl⟩

theorem statementIdents_lower {a : SQLAction V} (hs : IdentsOk a) :
    ∀ x ∈ statementIdents a, x.toList.all isLowerIdentChar = true := by
  obtain ⟨ht, hk, hw⟩ := hs
  simp only [statementIdents, List.mem_cons, List.mem_append, List.mem_map]
  rintro x ((rfl | ⟨k, hk', rfl⟩) | hx)
  · exact toLower_lowerIdent ht
  · exact toLower_lowerIdent (hk k (mem_sortedKeys.mp hk'))
  · split at hx
    · obtain ⟨k, hk', rfl⟩ := List.mem_map.mp hx
      exact toLower_lowerIdent (hw ‹_› k (mem_sortedKeys.mp hk'))
    · cases hx

theorem applySQLAction_faithful {codec : Codec P V} {p : Option P} {a : SQLAction V}
    (hp : parseSQLAction codec p = .ok a) :
    (∃ e, applySQLAction a = .error e) ∨
      ((a.operation = "INSERT" ∨ a.operation = "UPDATE") ∧
        applySQLAction a = .ok (specStatement a) ∧
        ∀ x ∈ statementIdents a, x.toList.all isLowerIdentChar = true) := by
  have hv := parseSQLAction_valid hp
  by_cases hs : IdentsOk a
  · obtain ⟨-, -, hop⟩ := validateSQLAction_ok hv
    exact .inr ⟨hop.imp_right And.left, applySQLAction_eq_spec hv hs, statementIdents_lower hs⟩
  · exact .inl (applySQLAction_error hv hs)

/-! ### Statements on `distributed_tx` -/

def namesAuditTable (codec : Codec P V) (p : Option P) : Bool :=
  match parseSQLAction codec p with
  | .ok a => toLower a.table == "distributed_tx"
  | .error _ => false

theorem words_append {w : String} (hw : ' ' ∉ w.toList) (rest : String) :
    words (w ++ " " ++ rest) = w :: words rest := by
  simp only [words, String.toList, String.data_append, List.append_assoc, List.singleton_append]
  rw [List.splitOn, List.splitOnP_first _ _ (fun x hx h => hw (by simp at h; exact h ▸ hx)) ' ' (by simp)]
  rfl

theorem quoted_ne_audit {tbl : String} (h : tbl ≠ "distributed_tx") :
    "\"" ++ tbl ++ "\"" ≠ "\"distributed_tx\"" := fun e => h <| String.ext <| by
  have e' := congrArg String.data (e.trans (show "\"distributed_tx\"" = "\"" ++ "distributed_tx" ++ "\"" by decide))
  simpa only [String.data_append, List.append_cancel_right_eq, List.append_cancel_left_eq] using e'

theorem not_space_of_lowerIdent {id : String} (h : id.toList.all isLowerIdentChar = true) :
    ' ' ∉ id.toList := fun hm => absurd (List.all_eq_true.mp h ' ' hm) (by decide)

/-- A rendered statement names its table as the third word of an `INSERT` and the second of an
`UPDATE`, so the server reads it as a statement on `distributed_tx` only if that is its table. -/
theorem specStatement_not_onAudit [SqlValue V] {a : SQLAction V} (ht : identOk a.table = true)
    (hne : toLower a.table ≠ "distributed_tx") : (specStatement a).onAudit = false := by
  have hsp := not_space_of_lowerIdent (toLower_lowerIdent ht)
  have hq : ' ' ∉ ("\"" ++ toLower a.table ++ "\"").toList := by
    simpa [String.toList, String.data_append] using hsp
  unfold specStatement Stmt.onAudit
  split
  · have he : insertText (toLower a.table) ((sortedKeys a.values).map toLower) =
        "INSERT" ++ " " ++ ("INTO" ++ " " ++ ("\"" ++ toLower a.table ++ "\"" ++ " " ++
          ("(" ++ ",".intercalate (((sortedKeys a.values).map toLower).map quoteIdent) ++ ") VALUES (" ++
            ",".intercalate ((List.range' 1 ((sortedKeys a.values).map toLower).length).map
              fun i => "$" ++ toString i) ++ ")"))) := by
      apply String.ext
      simp only [insertText, String.data_append, List.append_assoc]
      rfl
    dsimp only
    rw [he, words_append (by decide), words_append (by decide), words_append hq,
      readAudit_insert_ne (quoted_ne_audit hne)]
    rfl
  · have he : updateText (toLower a.table) ((sortedKeys a.values).map toLower)
        ((sortedKeys a.where_).map toLower) =
        "UPDATE" ++ " " ++ ("\"" ++ toLower a.table ++ "\"" ++ " " ++ ("SET " ++
          ",".intercalate (assignments ((sortedKeys a.values).map toLower) 1) ++ " WHERE " ++
          " AND ".intercalate (assignments ((sortedKeys a.where_).map toLower)
            (((sortedKeys a.values).map toLower).length + 1)))) := by
      apply String.ext
      simp only [updateText, String.data_append, List.append_assoc]
      rfl
    dsimp only
    rw [he, words_append (by decide), words_append hq, readAudit_update_ne (quoted_ne_audit hne)]
    rfl

theorem not_onAudit_of_namesAuditTable [SqlValue V] {codec : Codec P V} {p : Option P}
    {a : SQLAction V} {s : Stmt V} (hp : parseSQLAction codec p = .ok a)
    (hs : applySQLAction a = .ok s) (hn : namesAuditTable codec p = false) : s.onAudit = false := by
  have hv := parseSQLAction_valid hp
  have hi : IdentsOk a := by
    by_contra hi
    obtain ⟨e, he⟩ := applySQLAction_error hv hi
    rw [he] at hs; cases hs
  obtain rfl : s = specStatement a := Except.ok.inj (hs.symm.trans (applySQLAction_eq_spec hv hi))
  simp only [namesAuditTable, hp, beq_eq_false_iff_ne] at hn
  exact specStatement_not_onAudit hi.1 hn

def actionCodec (marshal : Option (SQLAction V) → Except String String) : Codec (SQLAction V) V :=
  ⟨.ok, marshal⟩

def usersInsert : SQLAction Nat :=
  ⟨"users", " insert", AList.insert "name" 2 (AList.insert "ID" 1 ∅), ∅⟩

theorem applySQLAction_faithful_usersInsert :
    parseSQLAction (actionCodec fun _ => .ok "") (some usersInsert) = .ok (normalize usersInsert) ∧
      ((∃ e, applySQLAction (normalize usersInsert) = .error e) ∨
        (((normalize usersInsert).operation = "INSERT" ∨ (normalize usersInsert).operation = "UPDATE") ∧
          applySQLAction (normalize usersInsert) = .ok (specStatement (normalize usersInsert)) ∧
          ∀ x ∈ statementIdents (normalize usersInsert), x.toList.all isLowerIdentChar = true)) :=
  ⟨rfl, @applySQLAction_faithful _ _ (actionCodec fun _ => .ok "") (some usersInsert) _ rfl⟩

end TwoPc.Sql

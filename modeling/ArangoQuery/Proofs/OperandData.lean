import ArangoQuery.Proofs.TypedArguments
import Mathlib.Data.List.Induction

/-!
# Operands as data

An expression that an operand became is read back as data: a literal as its value,
an array as the list of its items, a document as the mapping of its members, and
any other expression as itself.  What is read is the operand again
(`conversion_keeps_data`), whether it became one literal or a tree of nodes, up to
three things: tuples are lists, keys are texts, and of keys with the same text the
first gives the place and the last the value.
-/

namespace ArangoQuery

/-- Data in which expressions may stand. -/
inductive Data where
  | scalar (value : Scalar)
  | list (items : List Data)
  | tuple (items : List Data)
  | map (entries : List (Scalar × Data))
  | node (expr : Expr)
  | other (value : Value)

/-! ## Entries that are given key by key -/

section Entries

variable {κ κ' α β : Type}

/-- One entry for each key, in the place of its first value and with its last. -/
def lastWins : List (String × α) → List (String × α)
  | [] => []
  | (key, value) :: rest =>
      (key, ((lastWins rest).lookup key).getD value) ::
        (lastWins rest).filter (·.1 != key)

theorem lookup_putEntry (key name : String) (value : α)
    (entries : List (String × α)) :
    (putEntry (· == ·) key value entries).lookup name =
      if name = key then some value else entries.lookup name := by
  induction entries with
  | nil => by_cases hname : name = key <;> simp [putEntry, hname]
  | cons entry rest hrest =>
      obtain ⟨other, old⟩ := entry
      by_cases hname : name = other
      · subst hname
        by_cases hother : name = key <;> simp [putEntry, hother]
      · have hbeq : (name == other) = false := beq_false_of_ne hname
        by_cases hother : other = key
        · subst hother
          simp [putEntry, List.lookup_cons, hbeq, hname]
        · simp [putEntry, List.lookup_cons, hother, hbeq, hrest]

theorem filter_putEntry {key name : String} (hname : name ≠ key) (value : α)
    (entries : List (String × α)) :
    (putEntry (· == ·) key value entries).filter (·.1 != name) =
      putEntry (· == ·) key value (entries.filter (·.1 != name)) := by
  induction entries with
  | nil => simp [putEntry, Ne.symm hname]
  | cons entry rest hrest =>
      obtain ⟨other, old⟩ := entry
      by_cases hother : other = key
      · subst hother
        simp [putEntry, hname.symm]
      · rw [putEntry, if_neg (by simpa using hother), List.filter_cons, hrest,
          List.filter_cons]
        split
        · rw [putEntry, if_neg (by simpa using hother)]
        · rfl

theorem filter_putEntry_self (key : String) (value : α)
    (entries : List (String × α)) :
    (putEntry (· == ·) key value entries).filter (·.1 != key) =
      entries.filter (·.1 != key) := by
  induction entries with
  | nil => simp [putEntry]
  | cons entry rest hrest =>
      obtain ⟨other, old⟩ := entry
      by_cases hother : other = key
      · subst hother
        simp [putEntry]
      · rw [putEntry, if_neg (by simpa using hother), List.filter_cons, hrest,
          List.filter_cons]

theorem lastWins_concat (pairs : List (String × α)) (key : String)
    (value : α) :
    lastWins (pairs ++ [(key, value)]) =
      putEntry (· == ·) key value (lastWins pairs) := by
  induction pairs with
  | nil => rfl
  | cons pair rest hrest =>
      obtain ⟨first, old⟩ := pair
      -- The new value is for the first key, or for one of the others.
      rw [List.cons_append, lastWins, hrest, lookup_putEntry, lastWins,
        putEntry]
      by_cases hfirst : first = key
      · subst hfirst
        rw [filter_putEntry_self]
        simp
      · rw [filter_putEntry hfirst]
        simp [hfirst]

theorem entriesOf_eq_lastWins (pairs : List (String × α)) :
    entriesOf (· == ·) pairs = lastWins pairs := by
  induction pairs using List.reverseRecOn with
  | nil => rfl
  | append_singleton pairs pair hpairs =>
      rw [lastWins_concat, ← hpairs, entriesOf, List.foldl_concat]
      rfl

/-- Keys may be replaced as long as the same ones stay the same. -/
theorem entriesOf_map {same : κ → κ → Bool} {same' : κ' → κ' → Bool}
    (rename : κ → κ') (convert : α → β)
    (hsame : ∀ left right, same' (rename left) (rename right) =
      same left right) (pairs : List (κ × α)) :
    entriesOf same' (pairs.map (Prod.map rename convert)) =
      (entriesOf same pairs).map (Prod.map rename convert) := by
  have hput (key : κ) (value : α) (entries : List (κ × α)) :
      putEntry same' (rename key) (convert value)
          (entries.map (Prod.map rename convert)) =
        (putEntry same key value entries).map (Prod.map rename convert) := by
    induction entries with
    | nil => rfl
    | cons entry rest hrest =>
        obtain ⟨other, old⟩ := entry
        rw [List.map_cons, Prod.map_apply, putEntry, hsame, putEntry]
        split
        · rfl
        · rw [hrest]
          rfl
  induction pairs using List.reverseRecOn with
  | nil => rfl
  | append_singleton pairs pair hpairs =>
      unfold entriesOf at hpairs ⊢
      rw [List.map_append, List.foldl_append, hpairs, List.foldl_append]
      exact hput pair.1 pair.2 _

end Entries

/-! ## Reading back -/

namespace Data

mutual

def ofValue : Value → Data
  | .scalar value => .scalar value
  | .list items => .list (ofValues items)
  | .tuple items => .tuple (ofValues items)
  | .map entries => .map (ofEntries entries)
  | value => .other value

def ofValues : List Value → List Data
  | [] => []
  | value :: rest => ofValue value :: ofValues rest

def ofEntries : List (Scalar × Value) → List (Scalar × Data)
  | [] => []
  | (key, value) :: rest => (key, ofValue value) :: ofEntries rest

end

theorem ofEntries_eq_map (entries : List (Scalar × Value)) :
    ofEntries entries = entries.map (Prod.map id ofValue) := by
  induction entries with
  | nil => rfl
  | cons entry rest hrest => rw [ofEntries, hrest]; rfl

/-- The mapping with the given fields. -/
def ofFields (fields : List (String × Data)) : Data :=
  .map (fields.map (Prod.map Scalar.text id))

end Data

/-- What a node is read as, when its parts have been read. -/
def Node.toData : Node (Expr × Data) → Data
  | .literal value => .ofValue value
  | .array items => .list (items.map Prod.snd)
  | .object members => .ofFields (Document.map Prod.snd members)
  | node => .node (.of (node.map Prod.fst))

namespace Expr

def toData (expr : Expr) : Data :=
  expr.fold Node.toData

theorem toData_literal (value : Value) : (literal value).toData = .ofValue value :=
  rfl

theorem toData_array (items : List Expr) :
    (array items).toData = .list (items.map toData) := by
  rw [toData, fold_of]
  simp [Node.map, Node.toData, withFold, Function.comp_def, toData]

theorem toData_object (members : Document Expr) :
    (object members).toData = .ofFields (Document.map toData members) := by
  rw [toData, fold_of]
  simp [Node.map, Node.toData, Document.map, withFold, Function.comp_def, toData]

theorem toData_subquery (query : Query) :
    (subquery query).toData = .node (.subquery query) := by
  rw [toData, fold_of]
  exact congrArg (fun query => Data.node (.subquery query))
    (query.map_fst_withFold Node.toData)

theorem ofItems_of_isNode {items : List Expr}
    (hitems : ∀ item ∈ items, item.isNode = true) :
    ofItems items = .ok (.array items) := by
  rw [ofItems, traverse_accept hitems]
  rfl

theorem ofMembers_of_isNode {members : Document Expr}
    (hmembers : ∀ member ∈ members, member.2.isNode = true) :
    ofMembers members = .ok (.object members) := by
  rw [ofMembers, traverse_acceptMember hmembers]
  rfl

end Expr

/-! ## What an operand says -/

namespace Operand

variable {ρ : Type}

mutual

/-- Is this made of scalars other than placeholders, lists, tuples and mappings,
with expressions and builders anywhere inside? -/
def isData : Operand ρ → Bool
  | .scalar (.text content) => (Placeholder.of? content).isNone
  | .scalar _ => true
  | .list items => areData items
  | .tuple items => areData items
  | .map entries => areDataEntries entries
  | .built expr => expr.isNode
  | .bare expr => expr.isNode
  | .query _ => true
  | .other _ => false

def areData : List (Operand ρ) → Bool
  | [] => true
  | operand :: rest => isData operand && areData rest

def areDataEntries : List (Scalar × Operand ρ) → Bool
  | [] => true
  | (_, operand) :: rest => isData operand && areDataEntries rest

end

variable (look : ρ → Query)

mutual

/-- The data that an operand stands for: tuples are lists, keys are texts, and
the last value under a key counts. -/
def data : Operand ρ → Data
  | .scalar value => .scalar value
  | .list items => .list (dataList items)
  | .tuple items => .list (dataList items)
  | .map entries => .ofFields (lastWins (dataEntries entries))
  | .built expr => expr.toData
  | .bare expr => expr.toData
  | .query handle => .node (.subquery (look handle))
  | .other value => .other value

def dataList : List (Operand ρ) → List Data
  | [] => []
  | operand :: rest => data operand :: dataList rest

def dataEntries : List (Scalar × Operand ρ) → List (String × Data)
  | [] => []
  | (key, operand) :: rest => (key.display, data operand) :: dataEntries rest

end

/-! ## Plain data -/

variable {look}

mutual

/-- A literal of plain data is read as what the data says. -/
theorem ofValue_plain :
    ∀ {operand : Operand ρ}, operand.isData = true →
      operand.isPlain = true → Data.ofValue operand.plain = operand.data look
  | .scalar _, _, _ => rfl
  | .list items, hdata, hplain =>
      congrArg Data.list (ofValues_plainList hdata hplain)
  | .tuple items, hdata, hplain =>
      congrArg Data.list (ofValues_plainList hdata hplain)
  | .map entries, hdata, hplain => by
      have hentries := ofEntries_plainEntries hdata hplain
      rw [Data.ofEntries_eq_map] at hentries
      have hvalues : entriesOf Scalar.same
            ((plainEntries entries).map (Prod.map id Data.ofValue)) =
          (entriesOf Scalar.same (plainEntries entries)).map
            (Prod.map id Data.ofValue) :=
        entriesOf_map id Data.ofValue (fun _ _ => rfl) _
      have hkeys : entriesOf Scalar.same
            ((dataEntries look entries).map (Prod.map Scalar.text id)) =
          (entriesOf (· == ·) (dataEntries look entries)).map
            (Prod.map Scalar.text id) :=
        entriesOf_map Scalar.text id (fun _ _ => rfl) _
      rw [plain, Data.ofValue, Data.ofEntries_eq_map, ← hvalues, hentries,
        hkeys, entriesOf_eq_lastWins]
      rfl

theorem ofValues_plainList :
    ∀ {operands : List (Operand ρ)}, areData operands = true →
      arePlain operands = true →
      Data.ofValues (plainList operands) = dataList look operands
  | [], _, _ => rfl
  | operand :: rest, hdata, hplain => by
      rw [areData, Bool.and_eq_true] at hdata
      rw [arePlain, Bool.and_eq_true] at hplain
      rw [plainList, Data.ofValues, ofValue_plain hdata.1 hplain.1,
        ofValues_plainList hdata.2 hplain.2]
      rfl

theorem ofEntries_plainEntries :
    ∀ {entries : List (Scalar × Operand ρ)}, areDataEntries entries = true →
      arePlainEntries entries = true →
      Data.ofEntries (plainEntries entries) =
        (dataEntries look entries).map (Prod.map Scalar.text id)
  | [], _, _ => rfl
  | (key, operand) :: rest, hdata, hplain => by
      rw [areDataEntries, Bool.and_eq_true] at hdata
      rw [arePlainEntries, Bool.and_eq_true] at hplain
      rw [plainEntries, Data.ofEntries, ofValue_plain hdata.1 hplain.1,
        ofEntries_plainEntries hdata.2 hplain.2]
      rfl

end

/-! ## Conversion -/

/-- The conversion succeeds with a node that is read as the given data. -/
def Yields (outcome : Except Error Expr) (data : Data) : Prop :=
  ∃ expr, outcome = .ok expr ∧ expr.isNode = true ∧ expr.toData = data

/-- A list becomes one literal or an array, and is read the same way. -/
theorem yields_ofList {items : List (Operand ρ)} {exprs : List Expr}
    (hdata : areData items = true) (hexprs : toExprs look items = .ok exprs)
    (hnodes : ∀ expr ∈ exprs, expr.isNode = true)
    (hread : exprs.map Expr.toData = dataList look items) :
    Yields (if arePlain items then .ok (.literal (.list (plainList items)))
      else do Expr.ofItems (← toExprs look items))
      (.list (dataList look items)) := by
  split
  · rename_i hplain
    refine ⟨_, rfl, rfl, ?_⟩
    rw [Expr.toData_literal, Data.ofValue, ofValues_plainList hdata hplain]
  · refine ⟨.array exprs, ?_, rfl, ?_⟩
    · rw [hexprs]
      exact Expr.ofItems_of_isNode hnodes
    · rw [Expr.toData_array, hread]

theorem yields_ofMapping {entries : List (Scalar × Operand ρ)}
    {pairs : List (String × Expr)}
    (hpairs : toMembers look entries = .ok pairs)
    (hnodes : ∀ pair ∈ pairs, pair.2.isNode = true)
    (hread : pairs.map (Prod.map id Expr.toData) = dataEntries look entries) :
    Yields (ofMapping look entries) (data look (.map entries)) := by
  have hmembers : ∀ member ∈ entriesOf (· == ·) pairs,
      True ∧ member.2.isNode = true :=
    forall_entriesOf (fun _ => True) (fun expr => expr.isNode = true)
      fun pair hpair => ⟨trivial, hnodes pair hpair⟩
  refine ⟨.object (entriesOf (· == ·) pairs), ?_, rfl, ?_⟩
  · rw [ofMapping, hpairs]
    exact Expr.ofMembers_of_isNode fun member hmember =>
      (hmembers member hmember).2
  · have hvalues : entriesOf (· == ·) (pairs.map (Prod.map id Expr.toData)) =
        (entriesOf (· == ·) pairs).map (Prod.map id Expr.toData) :=
      entriesOf_map id Expr.toData (fun _ _ => rfl) _
    rw [hread, entriesOf_eq_lastWins] at hvalues
    rw [data, hvalues, Expr.toData_object]
    rfl

mutual

/-- Data is converted to what it says, also in a document. -/
theorem yields_converted :
    ∀ {operand : Operand ρ}, operand.isData = true →
      Yields (operand.toExpr look) (operand.data look) ∧
        Yields (operand.toMember look) (operand.data look)
  | .scalar value, hdata => by
      have hliteral : (scalar value : Operand ρ).toExpr look =
          .ok (.literal (.scalar value)) := by
        cases value with
        | text content => rw [toExpr, Option.isNone_iff_eq_none.1 hdata]
        | _ => rfl
      have hyields : Yields ((scalar value : Operand ρ).toExpr look)
          (.scalar value) := ⟨_, hliteral, rfl, rfl⟩
      exact ⟨hyields, hyields⟩
  | .list items, hdata => by
      obtain ⟨exprs, hexprs, hnodes, hread⟩ := exists_toExprs hdata
      have hyields := yields_ofList hdata hexprs hnodes hread
      exact ⟨hyields, hyields⟩
  | .tuple items, hdata => by
      obtain ⟨exprs, hexprs, hnodes, hread⟩ := exists_toExprs hdata
      have hyields := yields_ofList hdata hexprs hnodes hread
      exact ⟨hyields, hyields⟩
  | .map entries, hdata => by
      obtain ⟨pairs, hpairs, hnodes, hread⟩ := exists_toMembers hdata
      have hyields := yields_ofMapping hpairs hnodes hread
      refine ⟨?_, hyields⟩
      -- Plain entries are entered as values, all others as expressions.
      rw [toExpr]
      split
      · rename_i hplain
        exact ⟨_, rfl, rfl, ofValue_plain hdata hplain⟩
      · exact hyields
  | .built expr, hdata => ⟨⟨expr, rfl, hdata, rfl⟩, expr, rfl, hdata, rfl⟩
  | .bare expr, hdata => ⟨⟨expr, rfl, hdata, rfl⟩, expr, rfl, hdata, rfl⟩
  | .query handle, _ =>
      have hread := Expr.toData_subquery (look handle)
      ⟨⟨_, rfl, rfl, hread⟩, _, rfl, rfl, hread⟩

theorem exists_toExprs :
    ∀ {operands : List (Operand ρ)}, areData operands = true →
      ∃ exprs, toExprs look operands = .ok exprs ∧
        (∀ expr ∈ exprs, expr.isNode = true) ∧
        exprs.map Expr.toData = dataList look operands
  | [], _ => ⟨[], rfl, by simp, rfl⟩
  | operand :: rest, hdata => by
      rw [areData, Bool.and_eq_true] at hdata
      obtain ⟨expr, hexpr, hnode, hread⟩ := (yields_converted hdata.1).1
      obtain ⟨exprs, hexprs, hnodes, hreads⟩ := exists_toExprs hdata.2
      refine ⟨expr :: exprs, ?_, List.forall_mem_cons.2 ⟨hnode, hnodes⟩, ?_⟩
      · rw [toExprs, hexpr, hexprs]
        rfl
      · rw [List.map_cons, hread, hreads]
        rfl

theorem exists_toMembers :
    ∀ {entries : List (Scalar × Operand ρ)}, areDataEntries entries = true →
      ∃ pairs, toMembers look entries = .ok pairs ∧
        (∀ pair ∈ pairs, pair.2.isNode = true) ∧
        pairs.map (Prod.map id Expr.toData) = dataEntries look entries
  | [], _ => ⟨[], rfl, by simp, rfl⟩
  | (key, operand) :: rest, hdata => by
      rw [areDataEntries, Bool.and_eq_true] at hdata
      obtain ⟨expr, hexpr, hnode, hread⟩ := (yields_converted hdata.1).2
      obtain ⟨pairs, hpairs, hnodes, hreads⟩ := exists_toMembers hdata.2
      refine ⟨(key.display, expr) :: pairs, ?_,
        List.forall_mem_cons.2 ⟨hnode, hnodes⟩, ?_⟩
      · rw [toMembers_cons, hexpr, hpairs]
        rfl
      · rw [List.map_cons, Prod.map, hread, hreads]
        rfl

end

/-- Whatever path the conversion of data takes, the expression is read as the
data: in a value, in a document if it is a mapping, and item by item if it is a
list. -/
theorem conversion_keeps_data (look : ρ → Query) (operand : Operand ρ)
    (hdata : operand.isData = true) :
    (∃ expr, operand.toExpr look = .ok expr ∧
        expr.toData = operand.data look) ∧
      (∀ entries, operand = .map entries →
        ∃ expr, operand.toDocument look = .ok expr ∧
          expr.toData = operand.data look) ∧
      ∀ items, operand = .list items ∨ operand = .tuple items →
        ∃ exprs, toExprs look items = .ok exprs ∧
          (Expr.array exprs).toData = operand.data look := by
  refine ⟨?_, ?_, ?_⟩
  · obtain ⟨expr, hexpr, -, hread⟩ := (yields_converted hdata).1
    exact ⟨expr, hexpr, hread⟩
  · rintro entries rfl
    obtain ⟨expr, hexpr, -, hread⟩ := (yields_converted hdata).2
    exact ⟨expr, hexpr, hread⟩
  · intro items hitems
    have hitemsData : areData items = true ∧
        operand.data look = .list (dataList look items) := by
      obtain rfl | rfl := hitems <;> exact ⟨hdata, rfl⟩
    obtain ⟨exprs, hexprs, -, hreads⟩ := exists_toExprs hitemsData.1
    exact ⟨exprs, hexprs, by rw [Expr.toData_array, hreads, hitemsData.2]⟩

section Example

/-- Two keys with the same text, and an expression below a tuple. -/
def mixedProfile : Operand Nat :=
  .map [(.int 1, .text "first"), (.text "1", .text "last"),
    (.text "tags", .tuple [.scalar (.int 2),
      .map [(.text "of", .built (.reference "u"))]])]

def mixedProfileData : Data :=
  .map [(.text "1", .scalar (.text "last")),
    (.text "tags", .list [.scalar (.int 2),
      .map [(.text "of", .node (.reference "u"))]])]

theorem mixedProfile_kept :
    mixedProfile.isData = true ∧
      (∃ expr, mixedProfile.toExpr (fun _ => {}) = .ok expr ∧
        expr.toData = mixedProfileData) ∧
      (∃ expr, mixedProfile.toDocument (fun _ => {}) = .ok expr ∧
        expr.toData = mixedProfileData) ∧
      ∃ exprs, toExprs (fun _ => {}) [mixedProfile] = .ok exprs ∧
        (Expr.array exprs).toData = .list [mixedProfileData] := by
  have hdata : mixedProfile.isData = true := by decide
  have hlist : (Operand.list [mixedProfile]).isData = true := by decide
  obtain ⟨hvalue, hdocument, -⟩ :=
    conversion_keeps_data (fun _ => {}) mixedProfile hdata
  obtain ⟨-, -, hitems⟩ :=
    conversion_keeps_data (fun _ => {}) (.list [mixedProfile]) hlist
  exact ⟨hdata, hvalue, hdocument _ rfl, hitems _ (.inl rfl)⟩

end Example

end Operand

end ArangoQuery

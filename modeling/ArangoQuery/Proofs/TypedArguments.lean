import ArangoQuery.Proofs.Restorable
import ArangoQuery.Proofs.Successes

/-!
# Typed arguments

What a caller may hand over for an expression is typed if everything in it is:
plain data is data, and expressions and builders are restorable.  Converting such
an operand, in whatever position, leads to a restorable expression.
-/

namespace ArangoQuery

open Record (members)

variable {ρ : Type}

namespace Operand

mutual

/-- Is this data, or made of restorable expressions and builders? -/
def isTyped : Operand ρ → Bool
  | .scalar value => (Value.scalar value).isJsonData
  | .list items => areTyped items
  | .tuple items => areTyped items
  | .map entries => areTypedEntries entries
  | .built expr => expr.isRestorable
  | .bare expr => expr.isRestorable
  | .query _ => true
  | .other value => value.isJsonData

def areTyped : List (Operand ρ) → Bool
  | [] => true
  | operand :: rest => isTyped operand && areTyped rest

def areTypedEntries : List (Scalar × Operand ρ) → Bool
  | [] => true
  | (_, operand) :: rest => isTyped operand && areTypedEntries rest

end

end Operand

theorem Value.areJsonEntries_iff {entries : List (Scalar × Value)} :
    Value.areJsonEntries entries = true ↔
      ∀ entry ∈ entries, (∃ name, entry.1 = .text name) ∧
        entry.2.isJsonData = true := by
  induction entries with
  | nil => simp [Value.areJsonEntries]
  | cons entry rest hrest =>
      obtain ⟨key, value⟩ := entry
      cases key <;> simp [Value.areJsonEntries, hrest]

namespace Operand

mutual

/-- Plain data is converted to data that survives a snapshot. -/
theorem isJsonData_plain :
    ∀ {operand : Operand ρ}, operand.isTyped = true →
      operand.isPlain = true → operand.plain.isJsonData = true
  | .scalar _, htyped, _ => htyped
  | .list items, htyped, hplain => areJsonData_plainList htyped hplain
  | .tuple items, htyped, hplain => areJsonData_plainList htyped hplain
  | .map entries, htyped, hplain => by
      have hentries := areJsonEntries_plainEntries htyped hplain
      have htexts : ∀ pair ∈ plainEntries entries,
          Scalar.same pair.1 pair.1 = true := by
        intro pair hpair
        obtain ⟨⟨name, hname⟩, -⟩ := hentries pair hpair
        rw [hname]
        exact beq_self_eq_true name
      rw [plain, Value.isJsonData, Bool.and_eq_true, decide_eq_true_eq]
      exact ⟨Value.areJsonEntries_iff.2 (forall_entriesOf
        (fun key => ∃ name, key = Scalar.text name)
        (fun value => Value.isJsonData value = true) hentries),
        nodup_entriesOf htexts⟩
  | .other _, htyped, _ => htyped

theorem areJsonData_plainList :
    ∀ {operands : List (Operand ρ)}, areTyped operands = true →
      arePlain operands = true →
      Value.areJsonData (plainList operands) = true
  | [], _, _ => rfl
  | operand :: rest, htyped, hplain => by
      rw [areTyped, Bool.and_eq_true] at htyped
      rw [arePlain, Bool.and_eq_true] at hplain
      rw [plainList, Value.areJsonData, isJsonData_plain htyped.1 hplain.1,
        areJsonData_plainList htyped.2 hplain.2]
      rfl

theorem areJsonEntries_plainEntries :
    ∀ {entries : List (Scalar × Operand ρ)}, areTypedEntries entries = true →
      arePlainEntries entries = true →
      ∀ entry ∈ plainEntries entries, (∃ name, entry.1 = .text name) ∧
        entry.2.isJsonData = true
  | [], _, _ => by simp [plainEntries]
  | (key, operand) :: rest, htyped, hplain => by
      rw [areTypedEntries, Bool.and_eq_true] at htyped
      rw [arePlainEntries, Bool.and_eq_true] at hplain
      rw [plainEntries, List.forall_mem_cons]
      exact ⟨⟨⟨key.display, rfl⟩, isJsonData_plain htyped.1 hplain.1⟩,
        areJsonEntries_plainEntries htyped.2 hplain.2⟩

end

end Operand

namespace Expr

theorem isRestorable_literal (value : Value) :
    (literal value).isRestorable = value.isJsonData := by
  rw [isRestorable_of]
  simp [Node.isProper, Node.isJsonData, Node.parts]

theorem isRestorable_object (document : Document Expr) :
    (object document).isRestorable = document.isRestorable := by
  rw [isRestorable_of]
  rfl

theorem isRestorable_ofItems {items : List Expr} {expr : Expr}
    (hitems : ∀ item ∈ items, item.isRestorable = true)
    (hexpr : ofItems items = .ok expr) : expr.isRestorable = true := by
  rw [ofItems, traverse_accept fun item hitem =>
    isNode_of_isRestorable (hitems item hitem)] at hexpr
  obtain rfl := Except.ok.inj hexpr
  rw [isRestorable_of]
  exact List.all_eq_true.2 hitems

/-- A document whose members are entered under different names. -/
theorem isRestorable_ofMembers {pairs : List (String × Expr)} {expr : Expr}
    (hpairs : ∀ pair ∈ pairs, pair.2.isRestorable = true)
    (hexpr : ofMembers (entriesOf (· == ·) pairs) = .ok expr) :
    expr.isRestorable = true := by
  have hmembers : ∀ member ∈ entriesOf (· == ·) pairs,
      True ∧ member.2.isRestorable = true :=
    forall_entriesOf (fun _ => True) (fun expr => expr.isRestorable = true)
      fun pair hpair => ⟨trivial, hpairs pair hpair⟩
  rw [ofMembers, traverse_acceptMember fun member hmember =>
    isNode_of_isRestorable (hmembers member hmember).2] at hexpr
  obtain rfl := Except.ok.inj hexpr
  rw [isRestorable_object, Document.isRestorable, Bool.and_eq_true]
  constructor
  · exact decide_eq_true (nodup_entriesOf fun pair _ => beq_self_eq_true pair.1)
  · exact Document.forall_parts.2 fun member hmember =>
      (hmembers member hmember).2

end Expr

namespace Operand

variable {look : ρ → Query}

theorem isRestorable_ofList {items : List (Operand ρ)} {expr : Expr}
    (htyped : areTyped items = true)
    (hitems : ∀ exprs, toExprs look items = .ok exprs →
      ∀ expr ∈ exprs, expr.isRestorable = true)
    (hexpr : (if arePlain items then .ok (.literal (.list (plainList items)))
      else do Expr.ofItems (← toExprs look items)) = .ok expr) :
    expr.isRestorable = true := by
  split at hexpr
  · rename_i hplain
    obtain rfl := Except.ok.inj hexpr
    rw [Expr.isRestorable_literal]
    exact areJsonData_plainList htyped hplain
  · obtain ⟨exprs, hexprs, hexpr⟩ := exists_of_bind_eq_ok hexpr
    exact Expr.isRestorable_ofItems (hitems exprs hexprs) hexpr

theorem isRestorable_ofMapping {entries : List (Scalar × Operand ρ)}
    {expr : Expr}
    (hentries : ∀ pairs, toMembers look entries = .ok pairs →
      ∀ pair ∈ pairs, pair.2.isRestorable = true)
    (hexpr : ofMapping look entries = .ok expr) : expr.isRestorable = true := by
  obtain ⟨pairs, hpairs, hexpr⟩ := exists_of_bind_eq_ok hexpr
  exact Expr.isRestorable_ofMembers (hentries pairs hpairs) hexpr

/-- The member of a document that an operand becomes. -/
def toMember (look : ρ → Query) : Operand ρ → Except Error Expr
  | .map entries => ofMapping look entries
  | operand => operand.toExpr look

theorem toMembers_cons (key : Scalar) (operand : Operand ρ)
    (rest : List (Scalar × Operand ρ)) :
    toMembers look ((key, operand) :: rest) = (do
      let expr ← toMember look operand
      let rest ← toMembers look rest
      return (key.display, expr) :: rest) := by
  cases operand with
  | map entries =>
      rw [toMembers, toMember, ofMapping, bind_assoc]
  | _ => rfl

mutual

/-- A typed operand becomes a restorable expression, also in a document. -/
theorem isRestorable_converted
    (hlook : ∀ handle, (Expr.subquery (look handle)).isRestorable = true) :
    ∀ {operand : Operand ρ}, operand.isTyped = true →
      (∀ expr, operand.toExpr look = .ok expr → expr.isRestorable = true) ∧
        ∀ expr, operand.toMember look = .ok expr → expr.isRestorable = true
  | .scalar value, htyped => by
      have hscalar : ∀ expr, (scalar value : Operand ρ).toExpr look = .ok expr →
          expr.isRestorable = true := by
        intro expr hexpr
        cases value with
        | text content =>
            rw [toExpr] at hexpr
            split at hexpr <;> exact Except.ok.inj hexpr ▸ rfl
        | _ =>
            obtain rfl := Except.ok.inj hexpr
            rw [Expr.isRestorable_literal]
            exact htyped
      exact ⟨hscalar, hscalar⟩
  | .list items, htyped => by
      have hitems := forall_isRestorable_toExprs hlook htyped
      exact ⟨fun expr => isRestorable_ofList htyped hitems,
        fun expr => isRestorable_ofList htyped hitems⟩
  | .tuple items, htyped => by
      have hitems := forall_isRestorable_toExprs hlook htyped
      exact ⟨fun expr => isRestorable_ofList htyped hitems,
        fun expr => isRestorable_ofList htyped hitems⟩
  | .map entries, htyped => by
      have hentries := forall_isRestorable_toMembers hlook htyped
      refine ⟨fun expr hexpr => ?_,
        fun expr hexpr => isRestorable_ofMapping hentries hexpr⟩
      rw [toExpr] at hexpr
      split at hexpr
      · rename_i hplain
        obtain rfl := Except.ok.inj hexpr
        rw [Expr.isRestorable_literal]
        exact isJsonData_plain htyped hplain
      · exact isRestorable_ofMapping hentries hexpr
  | .built given, htyped =>
      ⟨fun _ hexpr => Except.ok.inj hexpr ▸ htyped,
        fun _ hexpr => Except.ok.inj hexpr ▸ htyped⟩
  | .bare given, htyped =>
      ⟨fun _ hexpr => Except.ok.inj hexpr ▸ htyped,
        fun _ hexpr => Except.ok.inj hexpr ▸ htyped⟩
  | .query handle, _ =>
      ⟨fun _ hexpr => Except.ok.inj hexpr ▸ hlook handle,
        fun _ hexpr => Except.ok.inj hexpr ▸ hlook handle⟩
  | .other value, htyped => by
      have hliteral := (Expr.isRestorable_literal value).trans htyped
      exact ⟨fun _ hexpr => Except.ok.inj hexpr ▸ hliteral,
        fun _ hexpr => Except.ok.inj hexpr ▸ hliteral⟩

theorem forall_isRestorable_toExprs
    (hlook : ∀ handle, (Expr.subquery (look handle)).isRestorable = true) :
    ∀ {operands : List (Operand ρ)}, areTyped operands = true →
      ∀ exprs, toExprs look operands = .ok exprs →
        ∀ expr ∈ exprs, expr.isRestorable = true
  | [], _, exprs, hexprs => by
      obtain rfl := Except.ok.inj hexprs
      simp
  | operand :: rest, htyped, exprs, hexprs => by
      rw [areTyped, Bool.and_eq_true] at htyped
      rw [toExprs] at hexprs
      obtain ⟨expr, hexpr, hexprs⟩ := exists_of_bind_eq_ok hexprs
      obtain ⟨others, hothers, hexprs⟩ := exists_of_bind_eq_ok hexprs
      obtain rfl := Except.ok.inj hexprs
      rw [List.forall_mem_cons]
      exact ⟨(isRestorable_converted hlook htyped.1).1 expr hexpr,
        forall_isRestorable_toExprs hlook htyped.2 others hothers⟩

theorem forall_isRestorable_toMembers
    (hlook : ∀ handle, (Expr.subquery (look handle)).isRestorable = true) :
    ∀ {entries : List (Scalar × Operand ρ)}, areTypedEntries entries = true →
      ∀ pairs, toMembers look entries = .ok pairs →
        ∀ pair ∈ pairs, pair.2.isRestorable = true
  | [], _, pairs, hpairs => by
      obtain rfl := Except.ok.inj hpairs
      simp
  | (key, operand) :: rest, htyped, pairs, hpairs => by
      rw [areTypedEntries, Bool.and_eq_true] at htyped
      rw [toMembers_cons] at hpairs
      obtain ⟨expr, hexpr, hpairs⟩ := exists_of_bind_eq_ok hpairs
      obtain ⟨others, hothers, hpairs⟩ := exists_of_bind_eq_ok hpairs
      obtain rfl := Except.ok.inj hpairs
      rw [List.forall_mem_cons]
      exact ⟨(isRestorable_converted hlook htyped.1).2 expr hexpr,
        forall_isRestorable_toMembers hlook htyped.2 others hothers⟩

end

section Positions

variable {operand : Operand ρ} {expr : Expr}

theorem isRestorable_toExpr
    (hlook : ∀ handle, (Expr.subquery (look handle)).isRestorable = true)
    (htyped : operand.isTyped = true) (hexpr : operand.toExpr look = .ok expr) :
    expr.isRestorable = true :=
  (isRestorable_converted hlook htyped).1 expr hexpr

/-- In the positions where texts are paths and mappings are documents. -/
theorem isRestorable_toValue
    (hlook : ∀ handle, (Expr.subquery (look handle)).isRestorable = true)
    (htyped : operand.isTyped = true) (hexpr : operand.toValue look = .ok expr) :
    expr.isRestorable = true := by
  unfold toValue at hexpr
  split at hexpr
  · exact (isRestorable_converted hlook htyped).2 expr hexpr
  · split at hexpr
    · exact Except.ok.inj hexpr ▸ rfl
    · exact isRestorable_toExpr hlook htyped hexpr

theorem isRestorable_toOptions {options : Option (Document Expr)}
    (hlook : ∀ handle, (Expr.subquery (look handle)).isRestorable = true)
    (htyped : operand.isTyped = true)
    (hoptions : operand.toOptions look = .ok options) :
    options.all Document.isRestorable = true := by
  unfold toOptions at hoptions
  split at hoptions
  · exact Except.ok.inj hoptions ▸ rfl
  · obtain ⟨expr, hexpr, hoptions⟩ := exists_of_bind_eq_ok hoptions
    have hrestorable := isRestorable_toValue hlook htyped hexpr
    split at hoptions
    · obtain rfl := Except.ok.inj hoptions
      rwa [Expr.isRestorable_object] at hrestorable
    · cases hoptions

end Positions

end Operand

end ArangoQuery

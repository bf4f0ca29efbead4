import UefiTyping.Proofs.Project.PlainSlot

/-!
# Spellings of a load from a table

The target of a service call can be written as a field of a base, or as the bytes at the sum
of a base and a literal. The two are recognised apart. A sum is split once: a literal that its
base adds is part of the base and has no part in the offset. The base of a sum loses its casts,
and must not be a constant address; the base of a field is taken as it stands.

So a call is matched on the outermost literal of its address, and the two spellings come to the
same for a base without casts that is no constant address, on any store.
-/
namespace UefiTyping

variable {α β σ : Type}

/-! ## Visits -/

/-- Items that come to nothing leave nothing to do. -/
theorem Stage.each_filterMap (stage : β → Stage σ) (f : α → Option β) (items : List α) :
    each stage (items.filterMap f) =
      each (fun item => (f item).elim (report .empty) stage) items := by
  induction items with
  | nil => rfl
  | cons item items ih =>
    cases hitem : f item with
    | none => simp [hitem, ih]
    | some found => simp [hitem, ih]

namespace Traversal
variable [VariableStore σ] (traversal : Traversal) (function : DecompiledFunction) (dryRun : Bool)

/-- What a walk does at an expression: it commits what is found there, if anything is. -/
def visit (e : Expr) : Stage σ :=
  (traversal.findingAt? function e).elim (Stage.report .empty) (Finding.commit function dryRun)

/-- A walk visits the calls of the body. -/
theorem apply_eq_each_visit :
    (traversal.apply function dryRun : Stage σ) =
      (Stage.report (.ofStats { RetypeStats.zero with traversals := 1 })).andThen
        (Stage.each (traversal.visit function dryRun) function.calls) := by
  have hfindings : traversal.findings function =
      function.calls.filterMap (traversal.findingAt? function) := List.map_filterMap
  rw [apply, hfindings, Stage.each_filterMap]
  rfl

/-- The service that an expression is matched as a call of. -/
def serviceAt? (e : Expr) : Option CallDescriptor :=
  (MatchedCall.ofCall? traversal.context.types function traversal.table traversal.recordAddress
    e).map (·.service)

end Traversal

/-! ## Slots of the two spellings -/

/-- A cast changes no constant address. -/
theorem Expr.constantAddress_stripCasts (e : Expr) :
    e.stripCasts.constantAddress = e.constantAddress := by
  fun_induction stripCasts e with
  | case1 inner type ih => rw [ih, constantAddress]
  | case2 => rfl

namespace TableSlot

/-- A sum with a literal on the right is split there, whatever stands on the left. -/
theorem ofTarget?_sum (left : Expr) (value : Word) (size : UInt8) :
    ofTarget? (.deref (.binary .add left (.int value)) size) =
      if left.constantAddress.isNone ∧ value.toNat < UInt64.size then
        some ⟨left.stripCasts, .ofNat value.toNat⟩
      else none := by
  have hsplit : splitAddress? (.binary .add left (.int value)) = some (left.stripCasts, value) := by
    rw [splitAddress?]
    rfl
  simp only [ofTarget?, Expr.stripCasts, hsplit, Option.bind_eq_bind, Option.bind_some,
    Expr.constantAddress_stripCasts]

theorem service?_ofNat (base : Expr) {offset : Nat} (h : offset < UInt32.size)
    (table : ServiceTable) :
    (⟨base, .ofNat offset⟩ : TableSlot).service? table = table.findByOffset? (.ofNat offset) := by
  have hword : (UInt32.ofNat offset).toUInt64 = UInt64.ofNat offset := by
    apply UInt64.toNat_inj.1
    rw [UInt32.toNat_toUInt64, UInt32.toNat_ofNat_of_lt' h,
      UInt64.toNat_ofNat_of_lt' (Nat.lt_trans h (by decide))]
  rw [← hword, service?_eq_findByOffset?]

end TableSlot

namespace Traversal

/-- A call through the bytes at a sum is matched on the literal, unless the declaration of the
base rules it out. -/
theorem serviceAt?_sum (traversal : Traversal) (function : DecompiledFunction) {base : Expr}
    (hbase : base.constantAddress = none) {offset : Word} (hoffset : offset.toNat < UInt32.size)
    (size : UInt8) (args : List Expr) (address : Option UInt64) :
    traversal.serviceAt? function
        (.callThrough (.deref (.binary .add base (.int offset)) size) args address) =
      if (⟨base.stripCasts, .ofNat offset.toNat⟩ : TableSlot).mayBe traversal.context.types function
          traversal.table then
        traversal.table.findByOffset? (.ofNat offset.toNat)
      else none := by
  have hslot : TableSlot.ofTarget? (.deref (.binary .add base (.int offset)) size) =
      some ⟨base.stripCasts, .ofNat offset.toNat⟩ := by
    rw [TableSlot.ofTarget?_sum, hbase, if_pos ⟨rfl, Nat.lt_trans hoffset (by decide)⟩]
  simp only [serviceAt?, MatchedCall.ofCall?, hslot, Option.bind_eq_bind, Option.bind_some,
    TableSlot.service?_ofNat _ hoffset]
  cases traversal.table.findByOffset? (.ofNat offset.toNat) with
  | none => simp
  | some service => split <;> rfl

/-- A call is matched on the outermost literal of its address. In a sum of sums the inner
literal has no part in the offset, and no declaration rules the inner sum out as a base; with
one literal the offset is the whole of it, and the declaration of the base counts. -/
theorem serviceAt?_nested_sum (traversal : Traversal) (function : DecompiledFunction)
    {base : Expr} (hbase : base.constantAddress = none) {inner outer : Word}
    (hsum : inner.toNat + outer.toNat < UInt32.size) (size : UInt8) (args : List Expr)
    (address : Option UInt64) :
    let serviceOf (target : Expr) : Option CallDescriptor :=
      traversal.serviceAt? function (.callThrough target args address)
    let table := traversal.table
    serviceOf (.deref (.binary .add (.binary .add base (.int inner)) (.int outer)) size) =
        table.findByOffset? (.ofNat outer.toNat) ∧
      serviceOf (.deref (.binary .add base (.int (inner + outer))) size) =
        if (⟨base.stripCasts, .ofNat (inner.toNat + outer.toNat)⟩ : TableSlot).mayBe
            traversal.context.types function table then
          table.findByOffset? (.ofNat (inner.toNat + outer.toNat))
        else none := by
  intro serviceOf table
  have houter : outer.toNat < UInt32.size := by omega
  have hwhole : (inner + outer).toNat = inner.toNat + outer.toNat := by
    have hsize : UInt32.size = 2 ^ 32 := rfl
    rw [BitVec.toNat_add, Nat.mod_eq_of_lt (by omega)]
  -- The inner sum has no constant address either, so it passes as a base.
  have hnested : (Expr.binary .add base (.int inner)).constantAddress = none := by
    rw [Expr.constantAddress, hbase]
    rfl
  constructor
  · exact serviceAt?_sum traversal function hnested houter size args address
  · have hsingle := serviceAt?_sum traversal function hbase (hwhole ▸ hsum) size args address
    rwa [hwhole] at hsingle

/-- A base with an offset of its own, and the same offset in one literal. -/
theorem serviceAt?_nested_sum_blockIo :
    let traversal := BlockIo.batch.traversal [] BlockIo.record .bootServices
    let base : Expr := .var (.register 3 "bs" 8)
    let nested : Expr := .deref (.binary .add (.binary .add base (.int 0x28)) (.int 0x118)) 8
    let single : Expr := .deref (.binary .add base (.int (0x28 + 0x118))) 8
    base.constantAddress = none ∧ (0x28 : Word).toNat + (0x118 : Word).toNat < UInt32.size ∧
      (traversal.serviceAt? BlockIo.function (.callThrough nested [] none)).map (·.name) =
        some "OpenProtocol" ∧
      (traversal.serviceAt? BlockIo.function (.callThrough single [] none)).map (·.name) =
        some "LocateProtocol" := by
  intro traversal base nested single
  have hbase : base.constantAddress = none := rfl
  have hsum : (0x28 : Word).toNat + (0x118 : Word).toNat < UInt32.size := by decide
  obtain ⟨hnested, hsingle⟩ :=
    serviceAt?_nested_sum traversal BlockIo.function hbase hsum 8 [] none
  refine ⟨hbase, hsum, ?_, ?_⟩
  · exact (congrArg (Option.map (·.name)) hnested).trans (by rfl)
  · exact (congrArg (Option.map (·.name)) hsingle).trans (by rfl)

/-- What lies behind another field is taken for a service: eight bytes past the first service
of the table there is none, and yet the call is matched as the first when the eight bytes are
added to the base. -/
theorem serviceAt?_past_first_service :
    let traversal := BlockIo.batch.traversal [] BlockIo.record .bootServices
    let base : Expr := .var (.register 3 "bs" 8)
    let nested : Expr := .deref (.binary .add (.binary .add base (.int 8)) (.int 0x98)) 8
    let single : Expr := .deref (.binary .add base (.int (8 + 0x98))) 8
    (traversal.serviceAt? BlockIo.function (.callThrough nested [] none)).map (·.name) =
        some "HandleProtocol" ∧
      traversal.serviceAt? BlockIo.function (.callThrough single [] none) = none :=
  ⟨by rfl, by rfl⟩

section Spellings
variable [VariableStore σ] (traversal : Traversal) (function : DecompiledFunction) (dryRun : Bool)

/-- Calls through targets with the same slot are the same to a visit. -/
theorem visit_congr {target target' : Expr}
    (h : TableSlot.ofTarget? target = TableSlot.ofTarget? target') (args : List Expr)
    (address : Option UInt64) :
    (traversal.visit function dryRun (.callThrough target args address) : Stage σ) =
      traversal.visit function dryRun (.callThrough target' args address) := by
  simp only [visit, findingAt?, MatchedCall.ofCall?, h]

/-- Nothing is found at a call whose target has no slot. -/
theorem visit_of_ofTarget?_eq_none {target : Expr} (h : TableSlot.ofTarget? target = none)
    (args : List Expr) (address : Option UInt64) :
    (traversal.visit function dryRun (.callThrough target args address) : Stage σ) =
      Stage.report .empty := by
  simp only [visit, findingAt?, MatchedCall.ofCall?, h]
  rfl

/-- A call through the bytes at a sum is visited like one through a field of the base without
its casts, but not at all if the base is a constant address. So the two spellings of a load
come to the same for every base that has no cast and is no constant address. -/
theorem visit_sum_eq_visit_field (base : Expr) (name : String) (offset : UInt64) (size : UInt8)
    (args : List Expr) (address : Option UInt64) :
    let visit (target : Expr) : Stage σ :=
      traversal.visit function dryRun (.callThrough target args address)
    let sum := Expr.deref (.binary .add base (.int (.ofNat 128 offset.toNat))) size
    (visit sum = if base.constantAddress.isSome then Stage.report .empty
        else visit (.field base.stripCasts name offset)) ∧
      (base.constantAddress = none → base.stripCasts = base →
        visit sum = visit (.field base name offset)) := by
  intro visit sum
  have hoffset : (BitVec.ofNat 128 offset.toNat).toNat = offset.toNat := by
    have hlt := offset.toNat_lt
    rw [BitVec.toNat_ofNat, Nat.mod_eq_of_lt (by omega)]
  have hslot : TableSlot.ofTarget? sum =
      if base.constantAddress.isNone then some ⟨base.stripCasts, offset⟩ else none := by
    rw [TableSlot.ofTarget?_sum, hoffset, UInt64.ofNat_toNat]
    simp only [offset.toNat_lt_size, and_true]
  have hvisit : visit sum = if base.constantAddress.isSome then Stage.report .empty
      else visit (.field base.stripCasts name offset) := by
    cases hbase : base.constantAddress with
    | none =>
      rw [hbase] at hslot
      exact visit_congr traversal function dryRun hslot args address
    | some location =>
      rw [hbase] at hslot
      exact visit_of_ofTarget?_eq_none traversal function dryRun hslot args address
  refine ⟨hvisit, fun hbase hcast => ?_⟩
  rw [hvisit, hbase, hcast]
  rfl

end Spellings

/-- The located interface, with the service loaded from a sum. -/
theorem visit_sum_eq_visit_field_blockIo :
    let traversal := BlockIo.batch.traversal [BlockIo.record] BlockIo.record .bootServices
    let args : List Expr := [.addressOf (.var (.global 0x3000 16)), .int 0,
      .addressOf (.var ((Variable.stack (-8) 8).rename "block"))]
    let visit (target : Expr) : Stage AnalysisProject :=
      traversal.visit BlockIo.function false (.callThrough target args (some 0x1010))
    let base : Expr := .var (.register 3 "bs" 8)
    let sum : Expr := .deref (.binary .add base (.int 0x140)) 8
    base.constantAddress = none ∧ base.stripCasts = base ∧
      visit sum = visit (.field base "LocateProtocol" 0x140) ∧
      (visit sum BlockIo.project).1.sites.map (·.outcome) =
        [.retyped "block" (.pointer (.named "EFI_BLOCK_IO_PROTOCOL"))] := by
  intro traversal args visit base sum
  have hbase : base.constantAddress = none := rfl
  have hcast : base.stripCasts = base := rfl
  have hvisit : visit sum = visit (.field base "LocateProtocol" 0x140) :=
    (visit_sum_eq_visit_field traversal BlockIo.function false base "LocateProtocol" 0x140 8 args
      (some 0x1010)).2 hbase hcast
  exact ⟨hbase, hcast, hvisit, by rfl⟩

/-- A base that is a constant address is matched in a field and not in a sum; one that is cast
to a pointer to another structure is ruled out in a field and not in a sum. -/
theorem visit_field_unlike_visit_sum :
    let traversal := BlockIo.batch.traversal [BlockIo.record] BlockIo.record .bootServices
    let matchedCalls (target : Expr) : Nat :=
      (traversal.visit BlockIo.function false (.callThrough target [] none)
        BlockIo.project).1.stats.matchedCalls
    let sum (base : Expr) : Expr := .deref (.binary .add base (.int 0x140)) 8
    let field (base : Expr) : Expr := .field base "LocateProtocol" 0x140
    let constant : Expr := .dataAddress 0x5000 0x1000 (.unknown "gBS")
    let other : Expr :=
      .cast (.var (.register 3 "bs" 8)) (.pointer (.named "EFI_BLOCK_IO_PROTOCOL"))
    matchedCalls (field constant) = 1 ∧ matchedCalls (sum constant) = 0 ∧
      matchedCalls (field other) = 0 ∧ matchedCalls (sum other) = 1 :=
  ⟨by rfl, by rfl, by rfl, by rfl⟩

end Traversal
end UefiTyping

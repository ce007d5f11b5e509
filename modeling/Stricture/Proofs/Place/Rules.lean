import Stricture.Proofs.Place.Located

/-!
# Rules report inside of the program

A rule that looks at the tree reports at nodes of the tree: at the node of the site that it looks
at, or at one that it reaches from there by going to children, to parents, or to what stands below.
There is one lemma for each rule. Where a rule collects nodes on its way, as for mentions of
variables and for chains of branches, a lemma on one step says what can be collected, and a lemma on
the whole run follows from it.
-/

namespace Stricture

namespace Rules

open Program

variable {q : Program} {s : Site}

/-! ### Rules that report at the node of their site -/

section OwnNode

variable (hn : s.node ∈ q.root.walk)
include hn

theorem raisedErrors_located : AreLocatedIn q (raisedErrors s) := by
  simp [raisedErrors, hn]

theorem unwantedStatements_located : AreLocatedIn q (unwantedStatements s) := by
  simp [unwantedStatements, hn]

theorem attributeAccess_located : AreLocatedIn q (attributeAccess s) := by
  unfold attributeAccess
  split <;> simp [hn]

theorem lambdas_located : AreLocatedIn q (lambdas s) := by
  simp [lambdas, hn]

theorem imports_located : AreLocatedIn q (imports s) := by
  unfold imports
  dsimp only
  split <;> simp [dottedImports, sameAliases, protectedImports, futureImports, hn]

theorem moduleMetadata_located : AreLocatedIn q (moduleMetadata s) := by
  simp [moduleMetadata, hn]

theorem selfAssignments_located : AreLocatedIn q (selfAssignments s) := by
  simp [selfAssignments, hn]

theorem magicNumbers_located : AreLocatedIn q (magicNumbers s) := by
  unfold magicNumbers
  split <;> simp [hn]

theorem formattedTexts_located : AreLocatedIn q (formattedTexts s) := by
  simp [formattedTexts, hn]

theorem compareOrder_located : AreLocatedIn q (compareOrder s).findings := by
  unfold compareOrder
  split
  · split
    · simp
    · split <;> simp [hn]
  · simp

theorem negatedComparisons_located : AreLocatedIn q (negatedComparisons s) := by
  unfold negatedComparisons
  split <;> simp [hn]

theorem methods_located : AreLocatedIn q (methods s) := by
  unfold methods
  dsimp only
  split
  · simp only [AreLocatedIn.append_iff]
    refine ⟨⟨by simp [hn], ?_⟩, by simp [hn]⟩
    split <;> simp [boundMethod, hn]
  · simp

theorem methodOrder_located : AreLocatedIn q (methodOrder s) := by
  simp [methodOrder, hn]

theorem magicFunctions_located : AreLocatedIn q (magicFunctions s) := by
  unfold magicFunctions
  split <;> simp [hn]

theorem nesting_located : AreLocatedIn q (nesting s) := by
  unfold nesting
  dsimp only
  split <;> simp [hn]

theorem indentation_located : AreLocatedIn q (indentation s) := by
  simp [indentation, hn]

theorem conditionCounts_located : AreLocatedIn q (conditionCounts s) := by
  unfold conditionCounts
  split <;> simp [hn]

theorem tryCounts_located (o : Options) : AreLocatedIn q (tryCounts o s) := by
  unfold tryCounts
  split <;> simp [overLimit, hn]

theorem yieldedCounts_located : AreLocatedIn q (yieldedCounts s) := by
  unfold yieldedCounts
  split
  · split <;> simp [hn]
  · simp

theorem baseCounts_located (o : Options) : AreLocatedIn q (baseCounts o s) := by
  unfold baseCounts
  split <;> simp [overLimit, hn]

theorem elementLayout_located : AreLocatedIn q (elementLayout s).findings := by
  unfold elementLayout
  dsimp only
  split <;> simp [hn]

theorem hintLayout_located : AreLocatedIn q (hintLayout s).findings := by
  have single (n : Node) : AreLocatedIn q (singleLine s.node n).findings := by
    unfold singleLine
    split <;> simp [hn]
  unfold hintLayout
  split
  · exact single _
  · exact single _
  · simp

theorem loopBodies_located : AreLocatedIn q (loopBodies s).findings := by
  unfold loopBodies
  dsimp only
  split <;> simp [hn]

theorem conditionals_located (seen : Rendered) :
    AreLocatedIn q (conditionals seen s).1.findings := by
  unfold conditionals
  dsimp only
  split
  · exact .requiring .nil (by simp [hn])
  · simp [hn]
  · simp

theorem branches_located (seen : Rendered) : AreLocatedIn q (branches seen s).1.findings := by
  have layout (test : Node) : AreLocatedIn q (conditionLayout s.node test).findings := by
    unfold conditionLayout
    split <;> simp [hn]
  have statement (test : Node) : AreLocatedIn q
      (if s.node.kind = .branch then
        (Report.ofFindings
          (reportIf (!s.node.orelse.isEmpty && isNegated test)
              (Violation.negatedConditions.atNode s.node)
            ++ reportIf (isUselessElse s)
              (Violation.uselessReturningElse.atNode s.node))).andThen
          (conditionLayout s.node test)
      else .empty).findings := by
    split
    · exact .andThen (by simp [hn]) (layout test)
    · simp
  unfold branches
  dsimp only
  split
  · simp
  · split
    · exact statement _
    · exact .requiring (statement _) (by simp [statement, hn])

theorem joinedConditions_located (seen : Rendered) :
    AreLocatedIn q (joinedConditions seen s).1.findings := by
  unfold joinedConditions
  split
  · exact .requiring .nil (by simp [hn])
  · simp

theorem hiddenExpressions_located (seen : Rendered) :
    AreLocatedIn q (hiddenExpressions seen s).1.findings := by
  have chains (seen : Rendered) {before : List Finding} (hb : AreLocatedIn q before) :
      AreLocatedIn q (hiddenChains seen s before).1.findings := by
    unfold hiddenChains
    dsimp only
    split
    · exact .requiring hb (by simp [hb, hn])
    · exact hb
  unfold hiddenExpressions
  split
  · split
    · simp
    · exact .requiring .nil (chains _ (by simp [hn]))
  · simp

theorem tryBlocks_located (seen : Rendered) : AreLocatedIn q (tryBlocks seen s).1.findings := by
  unfold tryBlocks
  dsimp only
  split
  · exact .requiring (by simp [hn]) (by simp [hn])
  · simp [hn]
  · simp

end OwnNode

/-! ### Rules that report at what stands below their site -/

/-- One more node: a mention that is kept afterwards was kept before, or is the node itself. -/
theorem Mentions.mem_step {mentions : Mentions} {n m : Node} {entry : String × List Node}
    (hentry : entry ∈ mentions.step n) (hm : m ∈ entry.2) :
    m = n ∨ ∃ old ∈ mentions, m ∈ old.2 := by
  have old : entry ∈ mentions → m = n ∨ ∃ old ∈ mentions, m ∈ old.2 :=
    fun h => Or.inr ⟨entry, h, hm⟩
  unfold Mentions.step at hentry
  split at hentry
  · exact old hentry
  · split at hentry
    · split at hentry
      · exact old hentry
      · obtain ⟨e, he, rfl⟩ := List.mem_map.mp hentry
        split at hm
        · rcases List.mem_append.mp hm with hm | hm
          · exact Or.inr ⟨e, he, hm⟩
          · exact Or.inl (List.mem_singleton.mp hm)
        · exact Or.inr ⟨e, he, hm⟩
    · split at hentry
      · rcases List.mem_append.mp hentry with he | he
        · exact old he
        · rw [List.mem_singleton.mp he] at hm
          cases hm
      · exact old hentry

/-- All mentions that are kept are among the nodes that were looked at. -/
theorem Mentions.mem_foldl {mentions : Mentions} {ns : List Node} {m : Node}
    {entry : String × List Node} (hentry : entry ∈ ns.foldl Mentions.step mentions)
    (hm : m ∈ entry.2) : m ∈ ns ∨ ∃ old ∈ mentions, m ∈ old.2 := by
  induction ns generalizing mentions with
  | nil => exact Or.inr ⟨entry, hentry, hm⟩
  | cons n rest ih =>
    rcases ih hentry with h | ⟨e, he, hme⟩
    · exact Or.inl (List.mem_cons_of_mem n h)
    · rcases Mentions.mem_step he hme with rfl | h
      · exact Or.inl List.mem_cons_self
      · exact Or.inr h

theorem mem_of_mem_mentionsIn {function m : Node} {entry : String × List Node}
    (hentry : entry ∈ mentionsIn function) (hm : m ∈ entry.2) :
    m ∈ function.body.flatMap Node.walk := by
  rcases Mentions.mem_foldl hentry hm with h | ⟨e, he, _⟩
  · exact h
  · cases he

section Below

variable (hn : s.node ∈ q.root.walk)
include hn

theorem statementLists_located : AreLocatedIn q (statementLists s) := by
  have list (documents isFirst closed : Bool) {ns : List Node} (h : ∀ n ∈ ns, n ∈ q.root.walk) :
      AreLocatedIn q (statementList documents isFirst closed ns) := by
    induction ns generalizing isFirst closed with
    | nil => simp [statementList]
    | cons n rest ih =>
      obtain ⟨hfirst, hrest⟩ := List.forall_mem_cons.mp h
      simp [statementList, hfirst, ih _ _ hrest]
  have hbody : ∀ n ∈ s.node.body, n ∈ q.root.walk := fun n h =>
    child_mem_walk hn (Node.mem_children_of_mem_body h)
  have horelse : ∀ n ∈ s.node.orelse, n ∈ q.root.walk := fun n h =>
    child_mem_walk hn (Node.mem_children_of_mem_orelse h)
  have hfinal : ∀ n ∈ s.node.finalBody, n ∈ q.root.walk := fun n h =>
    child_mem_walk hn (Node.mem_children_of_mem_finalBody h)
  simp [statementLists, list _ _ _ hbody, list _ _ _ horelse, list _ _ _ hfinal, hn]

theorem returnConsistency_located : AreLocatedIn q (returnConsistency s) := by
  have hmissing (v : Violation) (kind : Kind) :
      AreLocatedIn q ((missingValues kind s.node).map fun n => v.atNode n) := by
    rw [AreLocatedIn.map_iff]
    intro n h
    unfold missingValues at h
    dsimp only at h
    split at h
    · have hbelow : n ∈ s.node.walk := List.mem_of_mem_filter (List.mem_of_mem_filter h)
      simp [mem_walk_of_mem_walk hn hbelow]
    · cases h
  unfold returnConsistency
  split
  · exact AreLocatedIn.append_iff.mpr ⟨hmissing _ _, hmissing _ _⟩
  · simp [hn]

theorem loopHeads_located : AreLocatedIn q (loopHeads s) := by
  have hhead {target iter : Node} (h : loopHead? s.node = some (target, iter)) :
      target ∈ q.root.walk ∧ iter ∈ q.root.walk := by
    unfold loopHead? at h
    split at h
    case h_3 => cases h
    all_goals
      rename_i hshape
      obtain ⟨rfl, rfl⟩ := Prod.mk.inj (Option.some.inj h)
      exact ⟨child_mem_walk hn (Node.mem_children_of_shape hshape (by simp [Shape.children])),
        child_mem_walk hn (Node.mem_children_of_shape hshape (by simp [Shape.children]))⟩
  unfold loopHeads
  split
  case h_1 target iter heq =>
    obtain ⟨htarget, hiter⟩ := hhead heq
    simp [htarget, unwrapUnary_mem_walk hiter]
  case h_2 => simp

theorem calls_located (seen : Rendered) : AreLocatedIn q (calls seen s).1.findings := by
  unfold calls
  split
  case h_1 c hc =>
    have hargs : AreLocatedIn q (booleanArguments c) := by
      rw [booleanArguments, AreLocatedIn.flatMap_iff]
      intro a ha
      have haw := child_mem_walk hn (Node.mem_children_of_mem_args hc ha)
      split <;> simp [haw]
    exact .requiring .nil (by simp [callFindings, parentCalls, hargs, hn])
  case h_2 => simp

theorem usedProtected_located : AreLocatedIn q (usedProtected s.node) := by
  rw [usedProtected, AreLocatedIn.flatMap_iff]
  rintro ⟨name, nodes⟩ hentry
  have hnodes : ∀ m ∈ nodes, m ∈ q.root.walk := by
    intro m hm
    obtain ⟨b, hb, hmb⟩ := List.mem_flatMap.mp (mem_of_mem_mentionsIn hentry hm)
    exact mem_walk_of_mem_walk (child_mem_walk hn (Node.mem_children_of_mem_body hb)) hmb
  simp +contextual [hnodes]

theorem functionDefinitions_located : AreLocatedIn q (functionDefinitions s) := by
  have hdefaults : AreLocatedIn q ((s.node.signature?.map defaultValues).getD []) := by
    apply AreLocatedIn.getD_map
    intro g hg
    rw [defaultValues, AreLocatedIn.map_iff]
    intro d hd
    rw [Option.mem_toList] at hd
    have hdw := (signature_mem_walk hn hg).2 d (List.mem_of_find?_eq_some hd)
    simp [hdw]
  have hstops : AreLocatedIn q (raisedStops s.node) := by
    simp +contextual [raisedStops, mem_walk_of_mem_walk hn]
  simp [functionDefinitions, hdefaults, usedProtected_located hn, hstops]

theorem nestedTryBlocks_located : AreLocatedIn q (nestedTryBlocks s) := by
  simp +contextual [nestedTryBlocks, mem_walk_of_mem_walk hn]

theorem givenNames_located (o : Options) : AreLocatedIn q (givenNames o s) := by
  have hnames {n : Node} (hnw : n ∈ q.root.walk) (isFirst : Bool) (name : String) :
      AreLocatedIn q (nameFindings o n isFirst name) := by
    simp [nameFindings, hnw]
  have hparameters : AreLocatedIn q ((s.node.signature?.map (parameterNames o)).getD []) := by
    apply AreLocatedIn.getD_map
    intro g hg
    rw [parameterNames, AreLocatedIn.flatMap_iff]
    intro p hp
    exact hnames ((signature_mem_walk hn hg).1 p hp) _ _
  have hupper : AreLocatedIn q (upperAttributes s.node) := by
    rw [upperAttributes, AreLocatedIn.flatMap_iff]
    intro target ht
    obtain ⟨b, hb, htb⟩ := List.mem_flatMap.mp ht
    have hbw := child_mem_walk hn (Node.mem_children_of_mem_body hb)
    have htw := child_mem_walk hbw (Node.mem_children_of_mem_targets htb)
    split <;> simp [htw]
  unfold givenNames
  dsimp only
  split
  · simp [hupper, hnames hn]
  · simp [hparameters, hnames hn]
  · exact hparameters
  · rw [AreLocatedIn.flatMap_iff]
    intro a _
    split <;> simp [hnames hn]
  · rw [AreLocatedIn.flatMap_iff]
    intro a _
    split <;> simp [hnames hn]
  · exact AreLocatedIn.getD_map fun name _ => hnames hn _ _

theorem unpacking_located : AreLocatedIn q (unpacking s).findings := by
  have hof {place : Node} (target : Node) (h : place ∈ q.root.walk) :
      AreLocatedIn q (unpackingOf place target) := by
    simp [unpackingOf, h]
  unfold unpacking
  dsimp only
  split
  · rw [Report.findings_ofFindings, AreLocatedIn.flatMap_iff]
    intro item _
    split
    · exact hof _ hn
    · simp
  case h_2 hshape =>
    exact hof _ (child_mem_walk hn (Node.mem_children_of_shape hshape (by simp [Shape.children])))
  · exact hof _ hn
  · simp
  · simp [hof _ hn, hn]
  · simp

theorem displays_located (seen : Rendered) : AreLocatedIn q (displays seen s).1.findings := by
  have hvalues (before values : List Value) :
      AreLocatedIn q (repeatedValues seen.printer.value s.node before values).findings := by
    induction values generalizing before with
    | nil => simp [repeatedValues]
    | cons v rest ih =>
      unfold repeatedValues
      split
      · simp
      · split
        · exact .andThen (by simp [hn]) (ih _)
        · simp
  have hitems : AreLocatedIn q (repeatedItems seen s).findings := by
    unfold repeatedItems
    split
    · simp
    · split
      · simp [hn]
      · exact hvalues [] _
  have hchanging : AreLocatedIn q (changingItems s) := by
    rw [changingItems, AreLocatedIn.flatMap_iff]
    intro t ht
    obtain ⟨item, hitem, rfl⟩ := List.mem_filterMap.mp ht
    simp [child_mem_walk hn (Node.mem_children_of_mem_displayItems hitem)]
  exact .andThen hitems hchanging

end Below

section Operands

variable (hn : s.node ∈ q.root.walk)
include hn

theorem operation_mem_walk {o : Operation} (h : operation? s.node = some o) :
    o.right ∈ q.root.walk ∧ ∀ left ∈ o.left, left ∈ q.root.walk := by
  unfold operation? at h
  split at h
  case h_3 => cases h
  all_goals
    rename_i hshape
    obtain rfl := Option.some.inj h
    refine ⟨child_mem_walk hn (Node.mem_children_of_shape hshape (by simp [Shape.children])), ?_⟩
    intro left hleft
    exact child_mem_walk hn (Node.mem_children_of_shape hshape (by simp_all [Shape.children]))

/-- Both operands of an operation, one after the other. -/
theorem operands_mem_walk {o : Operation} (h : operation? s.node = some o) :
    ∀ n ∈ o.left.toList ++ [o.right], n ∈ q.root.walk := by
  obtain ⟨hright, hleft⟩ := operation_mem_walk hn h
  intro n hmem
  rcases List.mem_append.mp hmem with hmem | hmem
  · exact hleft n (Option.mem_toList.mp hmem)
  · rwa [List.mem_singleton.mp hmem]

theorem uselessOperators_located : AreLocatedIn q (uselessOperators s) := by
  unfold uselessOperators
  split
  · split <;> simp [repeatedSigns, hn]
  · split
    case h_1 o ho =>
      have hright := unwrapUnary_mem_walk (operation_mem_walk hn ho).1
      have hall : AreLocatedIn q (meaninglessOperands o) := by
        rw [meaninglessOperands, AreLocatedIn.flatMap_iff]
        intro operand h
        simp [unwrapUnary_mem_walk (operands_mem_walk hn ho operand h)]
      simp [zeroDivisions, hall, hright]
    case h_2 => simp

theorem wrongOperators_located : AreLocatedIn q (wrongOperators s) := by
  unfold wrongOperators
  split
  case h_1 o ho =>
    obtain ⟨hright, hleft⟩ := operation_mem_walk hn ho
    have hlists : AreLocatedIn q (multipliedLists o) := by
      rw [multipliedLists, AreLocatedIn.flatMap_iff]
      intro left h
      simp [hleft left (Option.mem_toList.mp h)]
    have htexts : AreLocatedIn q (addedTexts o) := by
      unfold addedTexts
      split
      · rw [AreLocatedIn.map_iff]
        intro n h
        have hmem := List.mem_of_find?_eq_some (Option.mem_toList.mp h)
        simp [operands_mem_walk hn ho n hmem]
      · simp
    simp [negatedOperands, hlists, htexts, hright]
  case h_2 => simp

theorem comparisons_located (seen : Rendered) :
    AreLocatedIn q (comparisons seen s).1.findings := by
  have hlengths (seen : Rendered) (ops : List CompareOp) (rights : List Node) (place : Nat)
      (operands : List Site) :
      AreLocatedIn q (lengthCompares seen s ops rights place operands).1.findings := by
    induction operands generalizing seen place with
    | nil => simp [lengthCompares]
    | cons t rest ih =>
      unfold lengthCompares
      split
      · exact ih _ _
      · refine .requiring .nil ?_
        split
        · split
          · simp
          · exact .andThen (by simp [hn]) (ih _ _)
        · exact ih _ _
  have hchain (ops : List CompareOp) : AreLocatedIn q (chainFindings s.node ops).findings := by
    unfold chainFindings
    split <;> simp [hn]
  unfold comparisons
  dsimp only
  split
  case h_1 left ops rights hshape =>
    have hoperands : AreLocatedIn q
        (operandFindings s.node ops (left :: rights) rights).findings := by
      unfold operandFindings
      split
      · simp
      · have hmembers : AreLocatedIn q (membershipTests s.node ops rights) := by
          simp only [membershipTests, AreLocatedIn.append_iff, AreLocatedIn.map_iff]
          refine ⟨by simp [hn], fun pair hpair => ?_⟩
          have hright : pair.2 ∈ rights :=
            (List.of_mem_zip (List.mem_of_mem_filter hpair)).2
          have hchild : pair.2 ∈ s.node.children :=
            Node.mem_children_of_shape hshape (List.mem_cons_of_mem _ hright)
          simp [child_mem_walk hn hchild]
        simp [hmembers, hn]
    split
    · exact hoperands
    · exact .andThen (.andThen hoperands (hlengths _ _ _ _ _)) (hchain ops)
  case h_2 => simp

theorem classDefinitions_located : AreLocatedIn q (classDefinitions s) := by
  have hbase {base : Node} (h : base ∈ q.root.walk) :
      AreLocatedIn q (baseFindings s.node base) := by
    unfold baseFindings
    split
    · simp [h]
    · split <;> simp [hn]
  unfold classDefinitions
  dsimp only
  split
  case h_1 hshape =>
    simp only [AreLocatedIn.append_iff, AreLocatedIn.flatMap_iff, AreLocatedIn.map_iff]
    refine ⟨⟨by simp [hn], fun base h => hbase ?_⟩, fun m h => ?_⟩
    · exact child_mem_walk hn (Node.mem_children_of_shape hshape (by simp [Shape.children, h]))
    · have hbody := List.mem_of_mem_filter h
      have hm : m ∈ s.node.children :=
        Node.mem_children_of_shape hshape (by simp [Shape.children, hbody])
      simp [child_mem_walk hn hm]
  case h_2 => simp

theorem slots_located (seen : Rendered) : AreLocatedIn q (slots seen s).1.findings := by
  have hitems (text : Site → String) {items : List Site}
      (h : ∀ t ∈ items, t.node ∈ q.root.walk) :
      AreLocatedIn q (slotItems text s.node items) := by
    unfold slotItems
    split
    case h_1 t ht => simp [h t (List.mem_of_find?_eq_some ht)]
    case h_2 => simp [hn]
  unfold slots
  split
  · split
    case h_1 value hvalue =>
      have hv : value ∈ s.node.children := by
        unfold Node.assignedValue? at hvalue
        split at hvalue
        case h_3 => cases hvalue
        all_goals
          rename_i hshape
          exact Node.mem_children_of_shape hshape (by simp_all [Shape.children])
      split
      case h_1 hshape =>
        refine .requiring .nil (hitems _ fun t ht => ?_)
        obtain ⟨e, he, rfl⟩ := List.mem_map.mp ht
        exact child_mem_walk (child_mem_walk hn hv) (Node.mem_children_of_shape hshape he)
      case h_2 => simp [hn]
    case h_2 => simp [hn]
  · simp

theorem shadowedAttributes_located : AreLocatedIn q (shadowedAttributes s) := by
  unfold shadowedAttributes
  dsimp only
  split
  · rw [AreLocatedIn.flatMap_iff]
    intro n h
    split <;> simp [mem_walk_of_mem_walk hn h]
  · simp

theorem changingConstants_located : AreLocatedIn q (changingConstants s) := by
  unfold changingConstants
  dsimp only
  split
  · rw [AreLocatedIn.map_iff]
    intro target h
    have htarget := Node.mem_children_of_mem_targets (List.mem_of_mem_filter h)
    simp [child_mem_walk hn htarget]
  · simp

end Operands

/-! ### Rules that report at parents -/

section Parents

variable (hs : s ∈ q.sites)
include hs

theorem unusedVariables_located : AreLocatedIn q (unusedVariables s) := by
  have hbinding {n : Node} (h : n ∈ q.root.walk) (isLocal : Bool) (names : List String) :
      AreLocatedIn q (unusedBinding n isLocal names) := by
    simp [unusedBinding, h]
  have hn := node_mem_walk_of_mem_sites hs
  unfold unusedVariables
  dsimp only
  split
  · simp [hn]
  · exact hbinding hn _ _
  · exact hbinding hn _ _
  · simp [hbinding hn]
  · exact hbinding (parent_getD_mem_walk hs) _ _
  · simp

theorem contextManagers_located : AreLocatedIn q (contextManagers s) := by
  unfold contextManagers
  split
  · simp [node_mem_walk_of_mem_sites hs]
  · exact AreLocatedIn.reportIf_iff.mpr fun _ =>
      Violation.atNode_isLocatedIn _ (parent_getD_mem_walk hs) _
  · simp

theorem comprehensionParts_located : AreLocatedIn q (comprehensionParts s) := by
  unfold comprehensionParts
  split
  · exact AreLocatedIn.reportIf_iff.mpr fun _ =>
      Violation.atNode_isLocatedIn _ (parent_getD_mem_walk hs) _
  · simp [node_mem_walk_of_mem_sites hs]

theorem returnedVariables_located : AreLocatedIn q (returnedVariables s).findings := by
  have hown : ∀ n ∈ ownNodes s, n ∈ q.root.walk := by
    intro n h
    obtain ⟨t, ht, rfl⟩ := List.mem_map.mp h
    have hst := Site.mem_walk_iff.mp (List.mem_of_mem_filter ht)
    rw [← mem_walk_iff_mem_sites] at hs
    exact node_mem_walk (mem_walk_iff.mpr ((mem_walk_iff.mp hs).trans hst))
  unfold returnedVariables
  dsimp only
  split
  · split
    · simp
    · simp only [Report.findings_ofFindings, onlyReturned, AreLocatedIn.flatMap_iff,
        AreLocatedIn.map_iff, Option.mem_toList]
      intro v _ n h
      have hmem := List.mem_of_mem_filter (List.mem_of_mem_getLast? h)
      simp [hown n hmem]
  · simp

end Parents

/-! ### Rules that look at all sites -/

theorem mem_of_mem_grouped {α κ : Type} [BEq κ] {key : α → κ} {things : List α}
    {group : κ × List α} (h : group ∈ grouped key things) : ∀ t ∈ group.2, t ∈ things := by
  obtain ⟨k, _, rfl⟩ := List.mem_map.mp h
  exact fun t ht => List.mem_of_mem_filter ht

/-- Parents of sites, picked by a test on the sites. -/
theorem parents_mem_walk (test : Site → Bool) :
    ∀ n ∈ (q.sites.filter test).filterMap (fun s => s.parent?.map Site.node), n ∈ q.root.walk := by
  intro n h
  obtain ⟨s, hs, hparent⟩ := List.mem_filterMap.mp h
  obtain ⟨p, hp, rfl⟩ := Option.map_eq_some_iff.mp hparent
  exact parent_node_mem_walk (List.mem_of_mem_filter hs) hp

theorem comprehensionRules_located : AreLocatedIn q (comprehensionRules q.sites) := by
  simp only [comprehensionRules, AreLocatedIn.append_iff, AreLocatedIn.flatMap_iff,
    AreLocatedIn.map_iff]
  refine ⟨fun s hs => comprehensionParts_located hs, fun n h => ?_⟩
  obtain ⟨group, hgroup, hhead⟩ := List.mem_filterMap.mp (List.mem_of_mem_filter h)
  have howner := mem_of_mem_grouped hgroup n (List.mem_of_mem_head? hhead)
  simp [parents_mem_walk _ n howner]

theorem functionSizes_located (o : Options) : AreLocatedIn q (functionSizes o q.sites) := by
  simp only [functionSizes, AreLocatedIn.flatMap_iff]
  intro m _ s h
  simp [overLimit, node_mem_walk_of_mem_sites (List.mem_of_mem_filter h)]

theorem LineRun.mem_of_mem_step {run : LineRun} {s t : Site} {group : Int × List Site}
    (h : group ∈ (run.step s).lines) (ht : t ∈ group.2) :
    t = s ∨ ∃ old ∈ run.lines, t ∈ old.2 := by
  unfold step at h
  split at h
  case h_1 => exact .inr ⟨group, h, ht⟩
  case h_2 =>
    split at h
    case isTrue => exact .inr ⟨group, h, ht⟩
    case isFalse =>
      dsimp only at h
      split at h
      case isTrue => exact .inr ⟨group, h, ht⟩
      case isFalse => exact mem_of_mem_enterGroup h ht

theorem LineRun.mem_of_mem_foldl {run : LineRun} {sites : List Site} {t : Site}
    {group : Int × List Site} (h : group ∈ (sites.foldl step run).lines) (ht : t ∈ group.2) :
    t ∈ sites ∨ ∃ old ∈ run.lines, t ∈ old.2 := by
  induction sites generalizing run with
  | nil => exact .inr ⟨group, h, ht⟩
  | cons s rest ih =>
    rcases ih h with hrest | ⟨old, hold, hmem⟩
    · exact .inl (List.mem_cons_of_mem s hrest)
    · rcases mem_of_mem_step hold hmem with rfl | hbefore
      · exact .inl List.mem_cons_self
      · exact .inr hbefore

/-- What is collected for a line are sites that were visited. -/
theorem mem_of_mem_linesOf {sites : List Site} {t : Site} {group : Int × List Site}
    (h : group ∈ linesOf sites) (ht : t ∈ group.2) : t ∈ sites := by
  rcases LineRun.mem_of_mem_foldl h ht with hsite | ⟨old, hold, -⟩
  · exact hsite
  · cases hold

theorem lineComplexity_located (o : Options) : AreLocatedIn q (lineComplexity o q.sites) := by
  simp only [lineComplexity, lineCounts, AreLocatedIn.append_iff, AreLocatedIn.flatMap_iff,
    Option.mem_toList]
  refine ⟨fun group hgroup first hfirst => ?_, by simp⟩
  have hsite := mem_of_mem_linesOf hgroup (List.mem_of_mem_head? hfirst)
  simp [node_mem_walk_of_mem_sites hsite]

theorem memberCounts_located (o : Options) : AreLocatedIn q (memberCounts o q.sites) := by
  simp only [memberCounts, fileOverLimit, AreLocatedIn.append_iff, AreLocatedIn.flatMap_iff]
  refine ⟨fun s h => ?_, by simp⟩
  simp [overLimit, node_mem_walk_of_mem_sites (List.mem_of_mem_filter h)]

theorem methodCounts_located (o : Options) : AreLocatedIn q (methodCounts o q.sites) := by
  simp only [methodCounts, AreLocatedIn.flatMap_iff, Option.mem_toList]
  intro group hgroup cls hcls
  have hparent := mem_of_mem_grouped hgroup cls (List.mem_of_mem_head? hcls)
  simp [overLimit, parents_mem_walk _ cls hparent]

/-- One more node: a chain begins where one began before, or at the node itself. -/
theorem BranchChains.mem_step {chains : BranchChains} {n : Node} {chain : Node × List Node}
    (h : chain ∈ chains.step n) : chain.1 = n ∨ ∃ old ∈ chains, old.1 = chain.1 := by
  have hroot : chains.rootOf n = n ∨ ∃ old ∈ chains, old.1 = chains.rootOf n := by
    unfold BranchChains.rootOf
    cases hfind : chains.find? fun chain => chain.2.any n.is with
    | none => exact Or.inl rfl
    | some old => exact Or.inr ⟨old, List.mem_of_find?_eq_some hfind, rfl⟩
  unfold BranchChains.step at h
  split at h
  · dsimp only [BranchChains.add] at h
    split at h
    · obtain ⟨old, hold, rfl⟩ := List.mem_map.mp h
      refine Or.inr ⟨old, hold, ?_⟩
      split <;> rfl
    · rcases List.mem_append.mp h with h | h
      · exact Or.inr ⟨chain, h, rfl⟩
      · rw [List.mem_singleton.mp h]
        exact hroot
  · exact Or.inr ⟨chain, h, rfl⟩

/-- All chains begin at one of the nodes that were looked at. -/
theorem BranchChains.mem_foldl {chains : BranchChains} {sites : List Site}
    {chain : Node × List Node}
    (h : chain ∈ sites.foldl (fun chains s => chains.step s.node) chains) :
    (∃ s ∈ sites, s.node = chain.1) ∨ ∃ old ∈ chains, old.1 = chain.1 := by
  induction sites generalizing chains with
  | nil => exact Or.inr ⟨chain, h, rfl⟩
  | cons s rest ih =>
    rcases ih h with ⟨t, ht, heq⟩ | ⟨old, hold, heq⟩
    · exact Or.inl ⟨t, List.mem_cons_of_mem s ht, heq⟩
    · rcases BranchChains.mem_step hold with hnode | ⟨older, holder, hfirst⟩
      · exact Or.inl ⟨s, List.mem_cons_self, hnode.symm.trans heq⟩
      · exact Or.inr ⟨older, holder, hfirst.trans heq⟩

theorem branchCounts_located : AreLocatedIn q (branchCounts q.sites) := by
  rw [branchCounts, AreLocatedIn.flatMap_iff]
  intro chain hchain
  rcases BranchChains.mem_foldl hchain with ⟨s, hs, heq⟩ | ⟨old, hold, _⟩
  · have hroot := node_mem_walk_of_mem_sites hs
    rw [heq] at hroot
    simp [hroot]
  · cases hold

theorem overusedTexts_located (o : Options) : AreLocatedIn q (overusedTexts o q.sites) := by
  simp [overusedTexts]

theorem importCounts_located (o : Options) : AreLocatedIn q (importCounts o q.sites) := by
  simp [importCounts, fileOverLimit]

theorem moduleContents_located (o : Options) (filename : String) (s : Site) :
    AreLocatedIn q (moduleContents o filename s) := by
  unfold moduleContents
  split <;> simp

theorem moduleName_located (o : Options) (filename : String) :
    AreLocatedIn q (moduleName o filename) := by
  simp [moduleName]

theorem mem_renderUses {seen : Rendered} {sites : List Site} {u : RenderedUse}
    (h : u ∈ (renderUses seen sites).1) : u.site ∈ sites := by
  induction sites generalizing seen with
  | nil => cases h
  | cons s rest ih =>
    rcases List.mem_cons.mp h with rfl | h
    · exact List.mem_cons_self
    · exact List.mem_cons_of_mem s (ih h)

theorem overusedIn_located (o : Options) {uses : List RenderedUse}
    (h : ∀ u ∈ uses, u.site.node ∈ q.root.walk) : AreLocatedIn q (overusedIn o uses) := by
  have bounded (limit : Limit) {us : List RenderedUse} (hu : ∀ u ∈ us, u.site.node ∈ q.root.walk) :
      AreLocatedIn q (overLimitUses limit us) := by
    simp only [overLimitUses, AreLocatedIn.flatMap_iff, Option.mem_toList]
    intro group hgroup first hfirst
    simp [hu first (mem_of_mem_grouped hgroup first (List.mem_of_mem_head? hfirst))]
  simp only [overusedIn, AreLocatedIn.append_iff, AreLocatedIn.flatMap_iff]
  refine ⟨bounded _ h, fun group hgroup => bounded _ fun u hu => h u ?_⟩
  exact List.mem_of_mem_filter (mem_of_mem_grouped hgroup u hu)

theorem overusedExpressions_located (subject : Subject) (memory : Memory) :
    AreLocatedIn subject.program (overusedExpressions subject memory).1.findings := by
  unfold overusedExpressions
  dsimp only
  split
  · simp
  · refine overusedIn_located _ fun u hu => ?_
    have hwritten := List.takeWhile_subset _ (mem_renderUses hu)
    exact node_mem_walk_of_mem_sites (List.mem_of_mem_filter hwritten)

/-! ### Bound names -/

/-- An event is seen at a site of the program. -/
theorem site_mem_of_mem_bindingEvents {e : BindingEvent} (he : e ∈ bindingEvents q) :
    e.site.node ∈ q.root.walk := by
  obtain ⟨s, hs, h⟩ := List.mem_filterMap.mp he
  have hn := node_mem_walk_of_mem_sites hs
  unfold bindingEvent? at h
  split at h
  case h_5 | h_6 =>
    obtain ⟨p, hp, rfl⟩ := Option.map_eq_some_iff.mp h
    exact parent_node_mem_walk hs hp
  case h_10 => cases h
  all_goals
    obtain rfl := Option.some.inj h
    exact hn

theorem judgeEvents_located {order : NameOrder} {scopes : Scopes} {events : List BindingEvent}
    (h : ∀ e ∈ events, e.site.node ∈ q.root.walk) :
    AreLocatedIn q (judgeEvents order scopes events).1 := by
  induction events generalizing scopes with
  | nil => exact .nil
  | cons e rest ih =>
    obtain ⟨he, hrest⟩ := List.forall_mem_cons.mp h
    exact AreLocatedIn.append_iff.mpr
      ⟨by simp [namesFinding, he], ih hrest⟩

theorem usesAfterBlocks_located {known : List BlockName} {sites : List Site}
    (h : ∀ s ∈ sites, s.node ∈ q.root.walk) :
    AreLocatedIn q (usesAfterBlocks known sites) := by
  induction sites generalizing known with
  | nil => exact .nil
  | cons s rest ih =>
    obtain ⟨hs, hrest⟩ := List.forall_mem_cons.mp h
    refine AreLocatedIn.append_iff.mpr ⟨?_, ih hrest⟩
    split <;> simp [hs]

end Rules

end Stricture

import Mathlib.Data.List.Pairwise
import QueryTypes.Proofs.Scoping.TreeShape

/-!
What stands around a site is a construct of the same program.

Each construct around a site has a site of its own, and so has each construct whose region something
is declared in. So where nodes have numbers of their own, a declaration belongs to the scope of a
construct around a site only if its region is one of the construct's.
-/

set_option autoImplicit false

namespace QueryTypes.Scoping

open QueryTypes.Script

def Construct.nestings : Construct → List Nesting
  | .block statement => [.block statement.mark.id]
  | .switch mark => [.switchTest mark.id, .switchBranches mark.id]
  | .catchClause clause => [.catchParameter clause.mark.id, .catchBody clause.mark.id]
  | .function made => [.function made.mark.id]
  | .namedFunction mark _ _ => [.functionName mark.id]
  | .functionDeclaration _ | .variables _ | .imports _ | .returns _ | .identifier _ _ => []

private theorem Construct.maker_of_nesting {construct : Construct} {nesting : Nesting}
    (its : nesting ∈ construct.nestings) :
    construct.scope?.map (·.1) = some nesting.maker := by
  cases construct with
  | block statement => obtain rfl := List.mem_singleton.mp its; rfl
  | switch mark => rcases List.mem_pair.mp its with rfl | rfl <;> rfl
  | catchClause clause => rcases List.mem_pair.mp its with rfl | rfl <;> rfl
  | function function => obtain rfl := List.mem_singleton.mp its; rfl
  | namedFunction mark name function => obtain rfl := List.mem_singleton.mp its; rfl
  | _ => cases its

/-- What is declared in one part of a construct is visible in another part or hidden from it. -/
theorem Construct.region_of_nestings {construct : Construct} {nesting other : Nesting}
    (its : nesting ∈ construct.nestings) (alsoIts : other ∈ construct.nestings) :
    other.region ∈ nesting.visible ++ nesting.hidden := by
  cases construct with
  | block statement =>
      obtain rfl := List.mem_singleton.mp its
      obtain rfl := List.mem_singleton.mp alsoIts
      exact List.mem_cons_self
  | switch mark =>
      rcases List.mem_pair.mp its with rfl | rfl <;>
        rcases List.mem_pair.mp alsoIts with rfl | rfl <;>
        exact List.mem_cons_self
  | catchClause clause =>
      rcases List.mem_pair.mp its with rfl | rfl <;> rcases List.mem_pair.mp alsoIts with rfl | rfl
      · exact List.mem_cons_self
      · exact List.mem_cons_of_mem _ List.mem_cons_self
      · exact List.mem_cons_of_mem _ List.mem_cons_self
      · exact List.mem_cons_self
  | function function =>
      obtain rfl := List.mem_singleton.mp its
      obtain rfl := List.mem_singleton.mp alsoIts
      exact List.mem_cons_self
  | namedFunction mark name function =>
      obtain rfl := List.mem_singleton.mp its
      obtain rfl := List.mem_singleton.mp alsoIts
      exact List.mem_cons_self
  | _ => cases its

/-- All constructs around some sites are around the part that the sites are of, or have a site
among these. -/
def Surrounded (around : List Nesting) (sites : List Site) : Prop :=
  ∀ site ∈ sites, ∀ nesting ∈ site.around,
    nesting ∈ around ∨ ∃ other ∈ sites, nesting ∈ other.construct.nestings

namespace Surrounded

variable {around : List Nesting} {first second sites : List Site}

theorem nil : Surrounded around [] := nofun

theorem append (left : Surrounded around first) (right : Surrounded around second) :
    Surrounded around (first ++ second) := by
  intro site present nesting surrounds
  rcases List.mem_append.mp present with inFirst | inSecond
  · exact (left site inFirst nesting surrounds).imp_right fun ⟨other, its, nests⟩ =>
      ⟨other, List.mem_append_left _ its, nests⟩
  · exact (right site inSecond nesting surrounds).imp_right fun ⟨other, its, nests⟩ =>
      ⟨other, List.mem_append_right _ its, nests⟩

theorem part {construct : Construct} {nesting : Nesting} (its : nesting ∈ construct.nestings)
    (inside : Surrounded (nesting :: around) sites) :
    Surrounded (construct.nestings ++ around) sites := by
  intro site present other surrounds
  refine (inside site present other surrounds).imp_left fun further => ?_
  rcases List.mem_cons.mp further with same | outer
  · rw [same]
    exact List.mem_append_left _ its
  · exact List.mem_append_right _ outer

theorem construct {construct : Construct}
    (inside : Surrounded (construct.nestings ++ around) sites) :
    Surrounded around (⟨around, construct⟩ :: sites) := by
  intro site present nesting surrounds
  rcases List.mem_cons.mp present with same | further
  · subst same
    exact .inl surrounds
  · rcases inside site further nesting surrounds with outer | ⟨other, its, nests⟩
    · rcases List.mem_append.mp outer with own | outside
      · exact .inr ⟨_, List.mem_cons_self, own⟩
      · exact .inl outside
    · exact .inr ⟨other, List.mem_cons_of_mem _ its, nests⟩

theorem before {construct : Construct} (nothing : construct.nestings = [])
    (after : Surrounded around sites) : Surrounded around (⟨around, construct⟩ :: sites) := by
  apply Surrounded.construct
  rw [nothing]
  exact after

end Surrounded

mutual

private theorem exprSites_surrounded : ∀ (value : Expr) (around : List Nesting),
    Surrounded around (exprSites around value)
  | .arrow mark function, around => by
      rw [exprSites]
      exact functionSites_surrounded function around
  | .binary mark operator left right, around => by
      rw [exprSites]
      exact (exprSites_surrounded left around).append (exprSites_surrounded right around)
  | .call mark optional callee arguments, around => by
      rw [exprSites]
      exact (exprSites_surrounded callee around).append (argumentsSites_surrounded arguments around)
  | .function mark none function, around => by
      rw [exprSites]
      exact functionSites_surrounded function around
  | .function mark (some binding) function, around => by
      rw [exprSites]
      exact .construct (.part List.mem_cons_self
        (functionSites_surrounded function (.functionName mark.id :: around)))
  | .identifier mark name, around => by
      rw [exprSites]
      exact .before rfl .nil
  | .member mark optional object property, around => by
      rw [exprSites]
      exact exprSites_surrounded object around
  | .tagged mark tag parts, around => by
      rw [exprSites]
      exact (exprSites_surrounded tag around).append (partsSites_surrounded parts around)
  | .array mark elements, around => by
      rw [exprSites]
      exact exprsSites_surrounded elements around
  | .bigInteger mark digits, around => by
      rw [exprSites]
      exact .nil
  | .boolean mark truth, around => by
      rw [exprSites]
      exact .nil
  | .null mark, around => by
      rw [exprSites]
      exact .nil
  | .number mark number, around => by
      rw [exprSites]
      exact .nil
  | .object mark members, around => by
      rw [exprSites]
      exact membersSites_surrounded members around
  | .regex mark pattern, around => by
      rw [exprSites]
      exact .nil
  | .string mark text, around => by
      rw [exprSites]
      exact .nil
  | .template mark parts, around => by
      rw [exprSites]
      exact partsSites_surrounded parts around

private theorem exprsSites_surrounded : ∀ (values : List Expr) (around : List Nesting),
    Surrounded around (exprsSites around values)
  | [], around => by
      rw [exprsSites]
      exact .nil
  | first :: rest, around => by
      rw [exprsSites]
      exact (exprSites_surrounded first around).append (exprsSites_surrounded rest around)

private theorem optionSites_surrounded : ∀ (value : Option Expr) (around : List Nesting),
    Surrounded around (optionSites around value)
  | none, around => by
      rw [optionSites]
      exact .nil
  | some value, around => by
      rw [optionSites]
      exact exprSites_surrounded value around

private theorem membersSites_surrounded :
    ∀ (members : List (String × Expr)) (around : List Nesting),
    Surrounded around (membersSites around members)
  | [], around => by
      rw [membersSites]
      exact .nil
  | (_, value) :: rest, around => by
      rw [membersSites]
      exact (exprSites_surrounded value around).append (membersSites_surrounded rest around)

private theorem partSites_surrounded : ∀ (part : TemplatePart) (around : List Nesting),
    Surrounded around (partSites around part)
  | .chunk text, around => by
      rw [partSites]
      exact .nil
  | .substitution value, around => by
      rw [partSites]
      exact exprSites_surrounded value around

private theorem partsSites_surrounded : ∀ (parts : List TemplatePart) (around : List Nesting),
    Surrounded around (partsSites around parts)
  | [], around => by
      rw [partsSites]
      exact .nil
  | first :: rest, around => by
      rw [partsSites]
      exact (partSites_surrounded first around).append (partsSites_surrounded rest around)

private theorem argumentsSites_surrounded : ∀ (arguments : List Argument) (around : List Nesting),
    Surrounded around (argumentsSites around arguments)
  | [], around => by
      rw [argumentsSites]
      exact .nil
  | ⟨mark, spread, value⟩ :: rest, around => by
      rw [argumentsSites]
      exact (exprSites_surrounded value around).append (argumentsSites_surrounded rest around)

private theorem functionSites_surrounded : ∀ (function : Function) (around : List Nesting),
    Surrounded around (functionSites around function)
  | ⟨mark, arrow, async, generator, parameters, body⟩, around => by
      rw [functionSites]
      have inside := (parametersSites_surrounded parameters (.function mark.id :: around)).append
        (bodySites_surrounded body (.function mark.id :: around))
      exact .construct (.part List.mem_cons_self inside)

private theorem parametersSites_surrounded :
    ∀ (parameters : List Parameter) (around : List Nesting),
    Surrounded around (parametersSites around parameters)
  | [], around => by
      rw [parametersSites]
      exact .nil
  | ⟨mark, rest, pattern, default⟩ :: parameters, around => by
      rw [parametersSites]
      exact ((patternSites_surrounded pattern around).append
        (optionSites_surrounded default around)).append
          (parametersSites_surrounded parameters around)

private theorem bodySites_surrounded : ∀ (body : FunctionBody) (around : List Nesting),
    Surrounded around (bodySites around body)
  | .statements body, around => by
      rw [bodySites]
      exact stmtsSites_surrounded body around
  | .expression value, around => by
      rw [bodySites]
      exact exprSites_surrounded value around

private theorem patternSites_surrounded : ∀ (pattern : Pattern) (around : List Nesting),
    Surrounded around (patternSites around pattern)
  | .name binding, around => by
      rw [patternSites]
      exact .nil
  | .array mark elements rest, around => by
      rw [patternSites]
      exact (elementsSites_surrounded elements around).append (restSites_surrounded rest around)
  | .object mark properties rest, around => by
      rw [patternSites]
      exact (propertiesSites_surrounded properties around).append (restSites_surrounded rest around)

private theorem restSites_surrounded : ∀ (pattern : Option Pattern) (around : List Nesting),
    Surrounded around (restSites around pattern)
  | none, around => by
      rw [restSites]
      exact .nil
  | some pattern, around => by
      rw [restSites]
      exact patternSites_surrounded pattern around

private theorem elementsSites_surrounded : ∀ (elements : List (Option PatternElement))
    (around : List Nesting), Surrounded around (elementsSites around elements)
  | [], around => by
      rw [elementsSites]
      exact .nil
  | none :: rest, around => by
      rw [elementsSites]
      exact elementsSites_surrounded rest around
  | some ⟨target, default⟩ :: rest, around => by
      rw [elementsSites]
      exact ((patternSites_surrounded target around).append
        (optionSites_surrounded default around)).append (elementsSites_surrounded rest around)

private theorem propertiesSites_surrounded : ∀ (properties : List PatternProperty)
    (around : List Nesting), Surrounded around (propertiesSites around properties)
  | [], around => by
      rw [propertiesSites]
      exact .nil
  | ⟨mark, key, target, default⟩ :: rest, around => by
      rw [propertiesSites]
      exact ((patternSites_surrounded target around).append
        (optionSites_surrounded default around)).append (propertiesSites_surrounded rest around)

private theorem stmtSites_surrounded : ∀ (statement : Stmt) (around : List Nesting),
    Surrounded around (stmtSites around statement)
  | .block block, around => by
      rw [stmtSites]
      exact blockSites_surrounded block around
  | .empty mark, around => by
      rw [stmtSites]
      exact .nil
  | .exportDefault mark value, around => by
      rw [stmtSites]
      exact exprSites_surrounded value around
  | .exportList exports, around => by
      rw [stmtSites]
      exact .nil
  | .expression mark value, around => by
      rw [stmtSites]
      exact exprSites_surrounded value around
  | .function ⟨mark, exported, exportedAsDefault, name, function⟩, around => by
      rw [stmtSites]
      exact .before rfl (functionSites_surrounded function around)
  | .conditional mark test consequent alternate, around => by
      rw [stmtSites]
      exact ((exprSites_surrounded test around).append
        (stmtSites_surrounded consequent around)).append
          (alternateSites_surrounded alternate around)
  | .imports declaration, around => by
      rw [stmtSites]
      exact .before rfl .nil
  | .returns ⟨mark, value⟩, around => by
      rw [stmtSites]
      exact .before rfl (optionSites_surrounded value around)
  | .switch mark test branches, around => by
      rw [stmtSites]
      have tested := exprSites_surrounded test (.switchTest mark.id :: around)
      have inside := branchesSites_surrounded branches (.switchBranches mark.id :: around)
      exact .construct ((tested.part List.mem_cons_self).append
        (inside.part (List.mem_cons_of_mem _ List.mem_cons_self)))
  | .attempt mark wrapped handler cleanup, around => by
      rw [stmtSites]
      exact ((blockSites_surrounded wrapped around).append
        (handlerSites_surrounded handler around)).append (cleanupSites_surrounded cleanup around)
  | .variables ⟨mark, exported, mode, declarators, comments⟩, around => by
      rw [stmtSites]
      exact .before rfl (declaratorsSites_surrounded declarators around)
  | .loop mark condition body, around => by
      rw [stmtSites]
      exact (exprSites_surrounded condition around).append (stmtSites_surrounded body around)

private theorem stmtsSites_surrounded : ∀ (body : List Stmt) (around : List Nesting),
    Surrounded around (stmtsSites around body)
  | [], around => by
      rw [stmtsSites]
      exact .nil
  | first :: rest, around => by
      rw [stmtsSites]
      exact (stmtSites_surrounded first around).append (stmtsSites_surrounded rest around)

private theorem alternateSites_surrounded : ∀ (alternate : Option Stmt) (around : List Nesting),
    Surrounded around (alternateSites around alternate)
  | none, around => by
      rw [alternateSites]
      exact .nil
  | some statement, around => by
      rw [alternateSites]
      exact stmtSites_surrounded statement around

private theorem blockSites_surrounded : ∀ (block : Block) (around : List Nesting),
    Surrounded around (blockSites around block)
  | ⟨mark, body⟩, around => by
      rw [blockSites]
      exact .construct (.part List.mem_cons_self
        (stmtsSites_surrounded body (.block mark.id :: around)))

private theorem cleanupSites_surrounded : ∀ (cleanup : Option Block) (around : List Nesting),
    Surrounded around (cleanupSites around cleanup)
  | none, around => by
      rw [cleanupSites]
      exact .nil
  | some block, around => by
      rw [cleanupSites]
      exact blockSites_surrounded block around

private theorem handlerSites_surrounded : ∀ (handler : Option CatchClause) (around : List Nesting),
    Surrounded around (handlerSites around handler)
  | none, around => by
      rw [handlerSites]
      exact .nil
  | some ⟨mark, parameter, body⟩, around => by
      rw [handlerSites]
      have bound := restSites_surrounded parameter (.catchParameter mark.id :: around)
      have inside := stmtsSites_surrounded body (.catchBody mark.id :: around)
      exact .construct ((bound.part List.mem_cons_self).append
        (inside.part (List.mem_cons_of_mem _ List.mem_cons_self)))

private theorem branchesSites_surrounded : ∀ (branches : List SwitchBranch) (around : List Nesting),
    Surrounded around (branchesSites around branches)
  | [], around => by
      rw [branchesSites]
      exact .nil
  | ⟨mark, test, body⟩ :: rest, around => by
      rw [branchesSites]
      exact ((optionSites_surrounded test around).append (stmtsSites_surrounded body around)).append
        (branchesSites_surrounded rest around)

private theorem declaratorsSites_surrounded :
    ∀ (declarators : List Declarator) (around : List Nesting),
    Surrounded around (declaratorsSites around declarators)
  | [], around => by
      rw [declaratorsSites]
      exact .nil
  | ⟨pattern, initializer⟩ :: rest, around => by
      rw [declaratorsSites]
      exact ((patternSites_surrounded pattern around).append
        (optionSites_surrounded initializer around)).append
          (declaratorsSites_surrounded rest around)

end

section Program

variable {program : Program}

private theorem site_of_around {site : Site} (present : site ∈ programSites program)
    {nesting : Nesting} (surrounds : nesting ∈ site.around) :
    ∃ other ∈ programSites program, nesting ∈ other.construct.nestings := by
  have surrounded : Surrounded [] (programSites program) := stmtsSites_surrounded program.body []
  rcases surrounded site present nesting surrounds with outside | own
  · cases outside
  · exact own

/-- A declaration that does not belong to the module belongs to a construct with a site. -/
theorem site_of_declaration {declaration : Declaration}
    (present : declaration ∈ programDeclarations program) {maker : NodeId}
    (made : declaration.region.maker? = some maker) :
    ∃ site ∈ programSites program, ∃ nesting ∈ site.construct.nestings,
      nesting.region = declaration.region := by
  obtain ⟨⟨around, construct⟩, inProgram, declared⟩ := List.mem_flatMap.mp present
  have outward (region : ∃ nesting ∈ around, nesting.region = declaration.region) :
      ∃ site ∈ programSites program, ∃ nesting ∈ site.construct.nestings,
        nesting.region = declaration.region := by
    obtain ⟨nesting, surrounds, same⟩ := region
    obtain ⟨other, its, nests⟩ := site_of_around inProgram surrounds
    exact ⟨other, its, nesting, nests, same⟩
  cases construct with
  | block statement => cases declared
  | switch mark => cases declared
  | returns statement => cases declared
  | identifier mark name => cases declared
  | catchClause clause =>
      rw [Site.declarations] at declared
      obtain ⟨binding, _, rfl⟩ := List.mem_map.mp declared
      exact ⟨_, inProgram, .catchParameter clause.mark.id, List.mem_cons_self, rfl⟩
  | function function =>
      rw [Site.declarations] at declared
      obtain ⟨binding, _, rfl⟩ := List.mem_map.mp declared
      exact ⟨_, inProgram, .function function.mark.id, List.mem_cons_self, rfl⟩
  | namedFunction mark name function =>
      rw [Site.declarations, List.mem_singleton] at declared
      subst declared
      exact ⟨_, inProgram, .functionName mark.id, List.mem_cons_self, rfl⟩
  | functionDeclaration statement =>
      rw [Site.declarations] at declared
      obtain ⟨binding, _, rfl⟩ := List.mem_map.mp declared
      exact outward (innermostRegion_nesting made)
  | «variables» statement =>
      rw [Site.declarations] at declared
      obtain ⟨bound, _, rfl⟩ := List.mem_map.mp declared
      exact outward (variableRegion_nesting made)
  | imports statement =>
      rw [Site.declarations] at declared
      obtain ⟨bound, _, rfl⟩ := List.mem_map.mp declared
      cases made

/-- Each node makes one scope, so it is a node of one construct. -/
theorem site_unique (unique : UniqueNodes program) {first second : Site}
    (inProgram : first ∈ programSites program) (alsoInProgram : second ∈ programSites program)
    {nesting other : Nesting} (its : nesting ∈ first.construct.nestings)
    (alsoIts : other ∈ second.construct.nestings) (same : nesting.maker = other.maker) :
    first = second := by
  have once : ((programSites program).filterMap fun site =>
      site.construct.scope?.map (·.1)).Nodup := by
    rw [← List.map_filterMap]
    exact scopeMakers_once unique
  have symmetric : Std.Symm fun first second : Site =>
      ∀ maker, first.construct.scope?.map (·.1) = some maker →
        ∀ other, second.construct.scope?.map (·.1) = some other → maker ≠ other :=
    ⟨fun _ _ apart maker made other alsoMade => (apart other alsoMade maker made).symm⟩
  by_contra different
  exact (List.pairwise_filterMap.mp once).forall inProgram alsoInProgram different _
    (Construct.maker_of_nesting its) _ (Construct.maker_of_nesting alsoIts) same

/-- A declaration belongs to the scope of a construct around a site only in one of the construct's
regions. -/
theorem region_of_sameMaker (unique : UniqueNodes program) {site : Site}
    (inProgram : site ∈ programSites program) {nesting : Nesting}
    (surrounds : nesting ∈ site.around)
    {declaration : Declaration} (present : declaration ∈ programDeclarations program)
    (made : declaration.region.maker? = some nesting.maker) :
    declaration.region ∈ nesting.visible ++ nesting.hidden := by
  obtain ⟨first, its, nests⟩ := site_of_around inProgram surrounds
  obtain ⟨second, alsoIts, other, alsoNests, same⟩ := site_of_declaration present made
  have sameMaker : nesting.maker = other.maker := by
    rw [← same, other.maker?_region] at made
    exact (Option.some.inj made).symm
  obtain rfl := site_unique unique its alsoIts nests alsoNests sameMaker
  rw [← same]
  exact Construct.region_of_nestings nests alsoNests

end Program

end QueryTypes.Scoping

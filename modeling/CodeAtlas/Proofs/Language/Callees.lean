import Mathlib
import CodeAtlas.Proofs.Language.Spans

/-!
# Which name of a callee is recorded

A call names its callee by one identifier, or by several: a receiver, and then what is called of it. What is called is
the last of them. The calls of a declaration are the first ones: where a callee is qualified by an identifier, the
receiver is recorded, and the name of what is called only if some other callee starts with it. This is so in four
languages, which differ in where the identifiers of a callee stand.

## Main definitions

* `Tree.nodes`: the nodes of a tree
* `CallStyle`: how a language writes calls, and the declarations that have calls
* `CallStyle.leading`, `CallStyle.called`: the names that the callees in a tree start with and end with
* `CallStyle.Qualified`: a call of a method of a receiver, both of which are identifiers

## Main results

* `Tree.collect_eq_flatMap`: what is collected from a tree is collected from its nodes
* `Language.calls_of_mem_rule`: the calls of a declaration are what its callees start with
* `Language.calls_record_receivers`: where the calls of a declaration are right
-/

namespace CodeAtlas

/-! ## The nodes of a tree -/

namespace Tree

/-- The nodes of a tree, from the top down and from left to right. -/
def nodes (t : Tree) : List Tree :=
  t.collect (fun _ n => [n]) none

mutual

theorem collect_eq_flatMap_collect {α : Type} (f : Tree → List α) (above above' : Option String) (t : Tree) :
    t.collect (fun _ => f) above = (t.collect (fun _ n => [n]) above').flatMap f := by
  cases t with
  | node kind text firstRow lastRow children =>
    rw [collect, collect, collectList_eq_flatMap_collectList f (some kind) (some kind) children, List.flatMap_append,
      List.flatMap_singleton]

theorem collectList_eq_flatMap_collectList {α : Type} (f : Tree → List α) (above above' : Option String)
    (ts : List Tree) : collectList (fun _ => f) above ts = (collectList (fun _ n => [n]) above' ts).flatMap f := by
  cases ts with
  | nil => rw [collectList, collectList, List.flatMap_nil]
  | cons t ts =>
    rw [collectList, collectList, collect_eq_flatMap_collect f above above' t,
      collectList_eq_flatMap_collectList f above above' ts, List.flatMap_append]

end

/-- **What is collected from a tree is collected from its nodes**, if the nodes above them do not matter. -/
theorem collect_eq_flatMap {α : Type} (f : Tree → List α) (above : Option String) (t : Tree) :
    t.collect (fun _ => f) above = t.nodes.flatMap f :=
  collect_eq_flatMap_collect f above none t

/-- The children of a kind. -/
def named (kind : String) (t : Tree) : List Tree :=
  t.children.filter (·.kind == kind)

/-- The text of a child is that of the first child of its kind. -/
theorem childText?_eq (kind : String) (t : Tree) : t.childText? kind = (t.named kind).head?.bind text? := by
  rw [childText?, child?, named, List.head?_filter]

end Tree

/-! ## Callees -/

/-- The names that callees start with, without empty ones. -/
def leadingNames (callees : List (List Tree)) : List String :=
  callees.filterMap fun callee => callee.head?.bind Tree.text?

/-- How a language writes calls. -/
structure CallStyle where
  /-- The name of the language. -/
  language : String
  /-- The kinds of nodes whose declarations have calls. -/
  owners : List String
  /-- The kind of a call. -/
  call : String
  /-- The kind of the node for a qualified callee, unless its identifiers stand in the call. -/
  path? : Option String
  /-- The callees at a node, each as the identifiers that it is made of. -/
  callees : Tree → List (List Tree)

namespace CallStyle

/-- The names that the callees in a tree start with. -/
def leading (style : CallStyle) (body : Tree) : List String :=
  (body.nodes.flatMap style.callees).filterMap fun callee => callee.head?.map Tree.text

/-- The names that the callees in a tree end with: what is called there. -/
def called (style : CallStyle) (body : Tree) : List String :=
  (body.nodes.flatMap style.callees).filterMap fun callee => callee.getLast?.map Tree.text

/-- A call of a method of a receiver. Both are identifiers, with something else between them and nothing but other
things after them. -/
def Qualified (style : CallStyle) (t receiver method : Tree) : Prop :=
  t.kind = style.call ∧ receiver.kind = "identifier" ∧ method.kind = "identifier" ∧
    ∃ (separator : Tree) (rest : List Tree), separator.kind ≠ "identifier" ∧ (∀ c ∈ rest, c.kind ≠ "identifier") ∧
      match style.path? with
      | some path => ∃ p : Tree, p.kind = path ∧ p.children = [receiver, separator, method] ∧ t.children = p :: rest
      | none => t.children = receiver :: separator :: method :: rest

/-- The callees at a node of a kind: the identifiers of the node, or else others. -/
def ownOrElse (call : String) (others : Tree → List (List Tree)) (t : Tree) : List (List Tree) :=
  if t.kind == call then
    if (t.childText? "identifier").isSome then [t.named "identifier"] else others t
  else []

/-- The names in the first child of a kind. -/
def inside (path name : String) (t : Tree) : List (List Tree) :=
  (t.child? path).toList.map (Tree.named name)

/-- The names of fields and of paths. -/
def fieldOrPath (t : Tree) : List (List Tree) :=
  inside "field_expression" "field_identifier" t ++ inside "scoped_identifier" "identifier" t

/-- Calls in Python. -/
def python : CallStyle where
  language := "python"
  owners := ["function_definition"]
  call := "call"
  path? := some "attribute"
  callees := ownOrElse "call" (inside "attribute" "identifier")

/-- Calls in Rust. -/
def rust : CallStyle where
  language := "rust"
  owners := ["function_item", "function_signature_item"]
  call := "call_expression"
  path? := some "scoped_identifier"
  callees := ownOrElse "call_expression" fieldOrPath

/-- Calls in Java. -/
def java : CallStyle where
  language := "java"
  owners := ["method_declaration", "constructor_declaration"]
  call := "method_invocation"
  path? := none
  callees := fun t => if t.kind == "method_invocation" then [t.named "identifier"] else []

/-- Calls in C#. -/
def csharp : CallStyle where
  language := "csharp"
  owners := ["method_declaration", "constructor_declaration"]
  call := "invocation_expression"
  path? := some "member_access_expression"
  callees := fun t =>
    if t.kind == "invocation_expression" then
      t.children.filterMap fun c =>
        if c.kind == "identifier" then some [c]
        else if c.kind == "member_access_expression" then some (c.named "identifier")
        else none
    else []

/-- The languages whose calls may be qualified by identifiers. -/
def all : List CallStyle := [python, java, csharp, rust]

/-! ## What is recorded -/

variable {style : CallStyle} {t receiver method body : Tree}

/-- The rule that records what callees start with. -/
def rule (style : CallStyle) : Calls.Rule := fun _ t => leadingNames (style.callees t)

theorem leadingNames_named (kind : String) (t : Tree) : leadingNames [t.named kind] = (t.childText? kind).toList := by
  rw [leadingNames, List.filterMap_cons, ← Tree.childText?_eq]
  cases t.childText? kind <;> rfl

theorem leadingNames_inside (path name : String) (t : Tree) :
    leadingNames (inside path name t) = Calls.memberName path name t := by
  rw [inside, Calls.memberName]
  cases t.child? path with
  | none => rfl
  | some p => exact leadingNames_named name p

theorem leadingNames_append (callees callees' : List (List Tree)) :
    leadingNames (callees ++ callees') = leadingNames callees ++ leadingNames callees' :=
  List.filterMap_append

theorem leadingNames_ownOrElse (call : String) (others : Tree → List (List Tree)) (t : Tree) :
    leadingNames (ownOrElse call others t) =
      if t.kind == call then
        match t.childText? "identifier" with
        | some name => [name]
        | none => leadingNames (others t)
      else [] := by
  rw [ownOrElse]
  split
  · cases h : t.childText? "identifier" with
    | none => rfl
    | some name =>
      rw [Option.isSome_some, if_pos rfl, leadingNames_named, h]
      rfl
  · rfl

theorem rule_python : python.rule = Calls.direct "call" "attribute" "identifier" := by
  funext above t
  rw [rule, python, leadingNames_ownOrElse, leadingNames_inside]
  rfl

theorem rule_rust : rust.rule = Calls.fieldOrPath := by
  funext above t
  rw [rule, rust, leadingNames_ownOrElse, fieldOrPath, leadingNames_append, leadingNames_inside, leadingNames_inside]
  rfl

theorem rule_java : java.rule = Calls.named ["method_invocation"] "identifier" := by
  funext above t
  rw [rule, java, Calls.named, List.contains_cons, List.contains_nil, Bool.or_false]
  dsimp only
  split
  · exact leadingNames_named _ t
  · rfl

theorem rule_csharp : csharp.rule = Calls.invoked := by
  funext above t
  rw [rule, csharp, Calls.invoked]
  dsimp only
  split
  · -- child by child: an identifier is a callee of its own, and a member access starts with its first identifier
    rw [leadingNames, List.filterMap_filterMap, List.filterMap_eq_flatMap_toList]
    refine congrArg (List.flatMap · t.children) (funext fun c => ?_)
    split
    · rfl
    split
    · rw [Tree.childText?_eq]
      rfl
    · rfl
  · rfl

theorem leadingNames_eq_filter (callees : List (List Tree)) :
    leadingNames callees = (callees.filterMap fun callee => callee.head?.map Tree.text).filter (· != "") := by
  rw [leadingNames, List.filter_filterMap]
  refine congrArg (List.filterMap · callees) (funext fun callee => ?_)
  cases callee.head? with
  | none => rfl
  | some first => by_cases hempty : first.text = "" <;> simp [Tree.text?, Option.filter, hempty]

/-- The names that callees start with are recorded, each once and without empty ones. -/
theorem inBody_rule (style : CallStyle) (hbody : t.child? "block" = some body) :
    Calls.inBody style.rule "block" t = ((style.leading body).filter (· != "")).eraseDups := by
  have hcollect : body.collect style.rule (some t.kind) = leadingNames (body.nodes.flatMap style.callees) := by
    rw [leadingNames, List.filterMap_flatMap]
    exact Tree.collect_eq_flatMap (fun n => leadingNames (style.callees n)) _ body
  rw [Calls.inBody, hbody, leading, ← leadingNames_eq_filter, ← hcollect]

/-! ## Qualified calls -/

theorem filter_identifier_eq_nil {ts : List Tree} (h : ∀ c ∈ ts, c.kind ≠ "identifier") :
    ts.filter (·.kind == "identifier") = [] :=
  List.filter_eq_nil_iff.mpr fun c hc => by simpa using h c hc

theorem named_pair {separator : Tree} {rest : List Tree} (hreceiver : receiver.kind = "identifier")
    (hmethod : method.kind = "identifier") (hseparator : separator.kind ≠ "identifier")
    (hrest : ∀ c ∈ rest, c.kind ≠ "identifier") (ht : t.children = receiver :: separator :: method :: rest) :
    t.named "identifier" = [receiver, method] := by
  simp [Tree.named, ht, hreceiver, hmethod, hseparator, filter_identifier_eq_nil hrest]

/-- A call whose only identifiers stand in a path has the callees that are looked for elsewhere. -/
theorem ownOrElse_of_path {call path : String} {others : Tree → List (List Tree)} {p : Tree} {rest : List Tree}
    (ht : t.kind = call) (hpath : path ≠ "identifier") (hp : p.kind = path) (hchildren : t.children = p :: rest)
    (hrest : ∀ c ∈ rest, c.kind ≠ "identifier") : ownOrElse call others t = others t := by
  have hnone : t.named "identifier" = [] := by
    rw [Tree.named, hchildren]
    exact filter_identifier_eq_nil (List.forall_mem_cons.mpr ⟨hp ▸ hpath, hrest⟩)
  rw [ownOrElse, Tree.childText?_eq, hnone, ht, beq_self_eq_true]
  rfl

theorem inside_of_path {path : String} {p : Tree} {rest : List Tree} (hp : p.kind = path)
    (hchildren : t.children = p :: rest) (name : String) : inside path name t = [p.named name] := by
  simp [inside, Tree.child?, hchildren, hp]

/-- **The callee of a qualified call** is its receiver and its method. -/
theorem Qualified.mem_callees (hstyle : style ∈ all) (h : style.Qualified t receiver method) :
    [receiver, method] ∈ style.callees t := by
  obtain ⟨ht, hreceiver, hmethod, separator, rest, hseparator, hrest, hshape⟩ := h
  have hpair : ∀ p : Tree, p.children = [receiver, separator, method] → p.named "identifier" = [receiver, method] :=
    fun p hp => named_pair hreceiver hmethod hseparator (List.forall_mem_nil _) hp
  simp only [all, List.mem_cons, List.not_mem_nil, or_false] at hstyle
  rcases hstyle with rfl | rfl | rfl | rfl
  · obtain ⟨p, hp, hpchildren, hchildren⟩ := hshape
    have hcallees : python.callees t = _ := ownOrElse_of_path ht (by decide) hp hchildren hrest
    rw [hcallees, inside_of_path hp hchildren, hpair p hpchildren]
    exact List.mem_singleton_self _
  · have hcallees : java.callees t = [t.named "identifier"] := if_pos (beq_iff_eq.mpr ht)
    rw [hcallees, named_pair hreceiver hmethod hseparator hrest hshape]
    exact List.mem_singleton_self _
  · obtain ⟨p, hp, hpchildren, hchildren⟩ := hshape
    have hcallees : csharp.callees t = t.children.filterMap _ := if_pos (beq_iff_eq.mpr ht)
    rw [hcallees, hchildren, List.mem_filterMap]
    exact ⟨p, List.mem_cons_self, by simp [hp, hpair p hpchildren]⟩
  · obtain ⟨p, hp, hpchildren, hchildren⟩ := hshape
    have hcallees : rust.callees t = _ := ownOrElse_of_path ht (by decide) hp hchildren hrest
    rw [hcallees, fieldOrPath, inside_of_path hp hchildren, hpair p hpchildren]
    exact List.mem_append_right _ (List.mem_singleton_self _)

theorem Qualified.mem_leading (hstyle : style ∈ all) (h : style.Qualified t receiver method) (ht : t ∈ body.nodes) :
    receiver.text ∈ style.leading body :=
  List.mem_filterMap.mpr ⟨_, List.mem_flatMap.mpr ⟨t, ht, h.mem_callees hstyle⟩, rfl⟩

theorem Qualified.mem_called (hstyle : style ∈ all) (h : style.Qualified t receiver method) (ht : t ∈ body.nodes) :
    method.text ∈ style.called body :=
  List.mem_filterMap.mpr ⟨_, List.mem_flatMap.mpr ⟨t, ht, h.mem_callees hstyle⟩, rfl⟩

end CallStyle

/-! ## The calls of a declaration -/

namespace Language

section

variable {file : File} {scope : Scope} {before : List Tree} {t : Tree} {e : Entity}

theorem Python.calls_of_mem_rule (ht : t.kind = "function_definition")
    (he : e ∈ (rule file scope before t).entities) :
    e.calls = Calls.inBody (Calls.direct "call" "attribute" "identifier") "block" t := by
  rw [rule, ht] at he
  obtain rfl := List.mem_singleton.mp he
  rfl

theorem Java.calls_of_mem_rule (ht : t.kind = "method_declaration" ∨ t.kind = "constructor_declaration")
    (he : e ∈ (rule file scope before t).entities) : e.calls = calls t := by
  have hdeclared : ∀ kind signature, ∀ e ∈ (declared? file scope before t kind signature (calls t) []).toList,
      e.calls = calls t := by
    intro kind signature e he
    exact forall_mem_named (P := fun e => e.calls = calls t) (fun _ => rfl) e (Option.mem_toList.mp he)
  have htype : e ∉ (typeRule file scope before t).entities := by
    rcases ht with ht | ht <;> simp [typeRule, ht, Found.nothing]
  unfold rule at he
  split at he
  · rcases ht with ht | ht <;> simp [ht, htype] at he
  · split at he
    · exact hdeclared _ _ e he
    split at he
    · exact hdeclared _ _ e he
    · exact absurd he htype
  · split at he
    · exact hdeclared _ _ e he
    · cases he

theorem CSharp.calls_of_mem_rule (ht : t.kind = "method_declaration" ∨ t.kind = "constructor_declaration")
    (he : e ∈ (rule file scope before t).entities) : e.calls = calls t := by
  have hdeclared : ∀ name? kind signature, ∀ e ∈
      (declared? file scope.parent before t name? kind signature (calls t) []).toList, e.calls = calls t := by
    intro name? kind signature e he
    exact forall_mem_named (P := fun e => e.calls = calls t) (fun _ => rfl) e (Option.mem_toList.mp he)
  have htype : e ∉ (typeRule file scope before t).entities := by
    rcases ht with ht | ht <;> simp [typeRule, ht, Found.nothing]
  have hmember : e ∈ (memberRule file scope before t).entities → e.calls = calls t := by
    intro he
    unfold memberRule at he
    simp only at he
    split at he
    · exact hdeclared _ _ _ e he
    split at he
    · exact hdeclared _ _ _ e he
    split at he
    · next hproperty => rcases ht with ht | ht <;> simp [ht] at hproperty
    · exact absurd he htype
  cases hl : scope.level with
  | file => rcases ht with ht | ht <;> simp [rule, hl, fileRule, ht, htype] at he
  | members => exact hmember (by simpa only [rule, hl] using he)
  | promises => exact hmember (by simpa only [rule, hl] using he)

theorem Rust.calls_of_mem_rule (ht : t.kind = "function_item" ∨ t.kind = "function_signature_item")
    (he : e ∈ (rule file scope before t).entities) : e.calls = Calls.inBody Calls.fieldOrPath "block" t := by
  have hfunction : ∀ e ∈ function file scope before t, e.calls = Calls.inBody Calls.fieldOrPath "block" t := by
    intro e he
    unfold function at he
    split at he
    · rw [List.mem_singleton.mp he]
      rfl
    · cases he
  unfold rule at he
  split at he
  · rcases ht with ht | ht
    · exact hfunction e (by simpa [fileRule, ht, Found.only] using he)
    · simp [fileRule, ht, Found.nothing] at he
  · split at he
    · exact hfunction e he
    · cases he
  · split at he
    · exact hfunction e he
    · cases he

/-- Languages with the same name have the same rule. -/
theorem rule_eq_of_name {l l' : Language} (hl : l ∈ languages) (hl' : l' ∈ languages) (hname : l.name = l'.name) :
    l.rule = l'.rule :=
  congrArg Language.rule (List.inj_on_of_nodup_map (by decide) hl hl' hname)

/-- **The calls of a declaration are what its callees start with**, in each of the languages. -/
theorem calls_of_mem_rule {l : Language} (hl : l ∈ languages) {style : CallStyle} (hstyle : style ∈ CallStyle.all)
    (hname : l.name = style.language) (ht : t.kind ∈ style.owners) (he : e ∈ (l.rule file scope before t).entities) :
    e.calls = Calls.inBody style.rule "block" t := by
  simp only [CallStyle.all, List.mem_cons, List.not_mem_nil, or_false] at hstyle
  rcases hstyle with rfl | rfl | rfl | rfl
  · have hrule : l.rule = Python.rule := rule_eq_of_name hl (List.getElem_mem (n := 0) (by decide)) hname
    rw [hrule] at he
    rw [CallStyle.rule_python]
    exact Python.calls_of_mem_rule (List.mem_singleton.mp ht) he
  · have hrule : l.rule = Java.rule := rule_eq_of_name hl (List.getElem_mem (n := 4) (by decide)) hname
    rw [hrule] at he
    rw [CallStyle.rule_java]
    exact Java.calls_of_mem_rule (List.mem_pair.mp ht) he
  · have hrule : l.rule = CSharp.rule := rule_eq_of_name hl (List.getElem_mem (n := 6) (by decide)) hname
    rw [hrule] at he
    rw [CallStyle.rule_csharp]
    exact CSharp.calls_of_mem_rule (List.mem_pair.mp ht) he
  · rw [eq_rust_of_name hl hname] at he
    rw [CallStyle.rule_rust]
    exact Rust.calls_of_mem_rule (List.mem_pair.mp ht) he

end

/-- **Where the calls of a declaration are right.** In a language whose calls may be qualified by identifiers, a function
or method has a body. Its calls are the names that the callees in the body start with, each once and without empty ones.
At a qualified call there, the method is called, and the receiver is what a callee starts with. So the calls hold the
method, and hold the receiver only if it is called somewhere in the body, if and only if some callee in the body starts
with the method, and the receiver is called. -/
theorem calls_record_receivers {l : Language} (hl : l ∈ languages) {style : CallStyle} (hstyle : style ∈ CallStyle.all)
    (hname : l.name = style.language) {path : Path} {tree t : Tree} {e : Entity} (he : (t, e) ∈ l.sightings path tree)
    (howner : t.kind ∈ style.owners) {body : Tree} (hbody : t.child? "block" = some body) :
    e.calls = ((style.leading body).filter (· != "")).eraseDups ∧
      ∀ call ∈ body.nodes, ∀ receiver method, style.Qualified call receiver method →
        method.text ∈ style.called body ∧ receiver.text ∈ style.leading body ∧
        ((method.text ∈ e.calls ∧ (receiver.text ∈ e.calls → receiver.text ∈ style.called body)) ↔
          method.text ≠ "" ∧ method.text ∈ style.leading body ∧
            (receiver.text = "" ∨ receiver.text ∈ style.called body)) := by
  obtain ⟨-, scope, before, hfound⟩ := of_mem_sightingsBelow (Q := fun _ => True) (fun _ _ _ _ => trivial) _ tree trivial
    (t, e) he
  have hcalls : e.calls = ((style.leading body).filter (· != "")).eraseDups :=
    (calls_of_mem_rule hl hstyle hname howner hfound).trans (style.inBody_rule hbody)
  have hmem : ∀ name, name ∈ e.calls ↔ name ≠ "" ∧ name ∈ style.leading body := by
    intro name
    rw [hcalls, List.mem_eraseDups, List.mem_filter, bne_iff_ne, and_comm]
  refine ⟨hcalls, fun call hcall receiver method hqualified => ?_⟩
  have hreceiver := hqualified.mem_leading hstyle hcall
  refine ⟨hqualified.mem_called hstyle hcall, hreceiver, ?_⟩
  rw [hmem, hmem, and_assoc]
  refine and_congr_right fun _ => and_congr_right fun _ => ?_
  constructor
  · intro honly
    by_cases hempty : receiver.text = ""
    · exact Or.inl hempty
    · exact Or.inr (honly ⟨hempty, hreceiver⟩)
  · rintro (hempty | hcalled) ⟨hnonempty, -⟩
    · exact absurd hempty hnonempty
    · exact hcalled

end Language

namespace Sample

/-- A node without children in the second row. -/
def leaf (kind text : String) : Tree := .node kind text 1 1 []

/-- A call of a method of an object. -/
def methodCall : Tree :=
  .node "call" "obj.method()" 1 1
    [.node "attribute" "obj.method" 1 1 [leaf "identifier" "obj", leaf "." ".", leaf "identifier" "method"],
      leaf "argument_list" "()"]

/-- The body of a function that makes the call. -/
def callBody : Tree :=
  .node "block" "obj.method()" 1 1 [.node "expression_statement" "obj.method()" 1 1 [methodCall]]

/-- The function. -/
def caller : Tree :=
  .node "function_definition" "def f():\n  obj.method()" 0 1 [leaf "identifier" "f", leaf "parameters" "()", callBody]

end Sample

/-- A function calls a method of an object, and nothing else. It is recorded to call the object, which nothing calls, and
not to call the method. -/
theorem calls_record_receivers_of_method : ∃ l ∈ languages, l.name = "python" ∧
    ∃ e, (Sample.caller, e) ∈ l.sightings (.relative ["a.py"]) (.node "module" "" 0 2 [Sample.caller]) ∧
      e.calls = ["obj"] ∧ "method" ∈ CallStyle.python.called Sample.callBody ∧
      ¬ ("method" ∈ e.calls ∧ ("obj" ∈ e.calls → "obj" ∈ CallStyle.python.called Sample.callBody)) := by
  have hpython : languages.head (List.cons_ne_nil _ _) ∈ languages := List.mem_cons_self
  have hstyle : CallStyle.python ∈ CallStyle.all := List.mem_cons_self
  have howner : Sample.caller.kind ∈ CallStyle.python.owners := List.mem_singleton_self _
  have hbody : Sample.caller.child? "block" = some Sample.callBody := rfl
  obtain ⟨e, he⟩ : ∃ e, (Sample.caller, e) ∈ (languages.head (List.cons_ne_nil _ _)).sightings (.relative ["a.py"])
      (.node "module" "" 0 2 [Sample.caller]) := ⟨_, List.mem_cons_self⟩
  refine ⟨_, hpython, rfl, e, he, ?_⟩
  obtain ⟨hcalls, hqualified⟩ := Language.calls_record_receivers hpython hstyle rfl he howner hbody
  have hshape : CallStyle.python.Qualified Sample.methodCall (Sample.leaf "identifier" "obj")
      (Sample.leaf "identifier" "method") :=
    ⟨rfl, rfl, rfl, Sample.leaf "." ".", [Sample.leaf "argument_list" "()"], by decide, by decide, _, rfl, rfl, rfl⟩
  obtain ⟨hcalled, -, hright⟩ := hqualified Sample.methodCall
    (List.mem_cons_of_mem _ (List.mem_cons_of_mem _ List.mem_cons_self)) _ _ hshape
  refine ⟨hcalls.trans (by decide +kernel), hcalled, fun h => ?_⟩
  obtain ⟨-, hleading, -⟩ := hright.mp h
  exact absurd hleading (by decide +kernel)

end CodeAtlas

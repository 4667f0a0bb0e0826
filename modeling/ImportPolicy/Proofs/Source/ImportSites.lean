import ImportPolicy.Proofs.Answer
import ImportPolicy.Proofs.Source.ByteOrderMark
import ImportPolicy.Proofs.Source.Visit

/-!
# Where a tree imports

A tree imports at *sites*: an import of modules has one for each module that
it names, an import from a module and a call of an importing function are one
each. `ImportsAs` says of a single node what it imports, without regard to
the nodes around it; a site of a tree is a route to such a node and the number
of the module there (`Tree.HasSite`). So sites are everywhere that routes lead
to: in nested functions and classes, in decorators and default values, in the
arguments of another call that imports.

The occurrences of a tree are its sites, one for one. They are collected in
the order of the visit and then sorted by where their constructs start, and
`ImportSite.Before` is the order that comes out: by line, by column, and where
these are the same by the visit. A strict order has one way only to list the
sites, so `imports_listed` fixes the list.
-/

namespace ImportPolicy.Source

/-! ## Sites -/

/-- An expression that stands for an importing function. -/
inductive Importer : Tree → Prop
  | imported {span : Span} {below : List Tree} :
    Importer (.node (.name "import_module") span below)
  | builtIn {span : Span} {below : List Tree} :
    Importer (.node (.name "__import__") span below)
  | qualified {span place : Span} {below : List Tree} :
    Importer (.node (.attribute "import_module") span [.node (.name "importlib") place below])

/-- A node imports something by itself: under a number, from a construct that
covers a stretch of the text, and by a specifier. -/
inductive ImportsAs : Tree → Nat → Span → String → Prop
  /-- Each module of an import of modules, by its name. -/
  | module {span place : Span} {modules below : List Tree} {number : Nat} {name : String} :
    modules[number]? = some (.node (.alias name) place below) →
    ImportsAs (.node .importModules span modules) number place name
  /-- An import from a module, by the dots and the name of the module. -/
  | members {module : Option String} {level : Nat} {span : Span} {below : List Tree} :
    ImportsAs (.node (.importFrom module level) span below) 0 span
      (String.ofList (List.replicate level '.') ++ module.getD "")
  /-- A call of an importing function with a text as its first argument, by
  that text. -/
  | call {positional : Nat} {span place : Span} {function : Tree} {value : String}
      {below more : List Tree} :
    Importer function →
    ImportsAs
      (.node (.call (positional + 1)) span (function :: .node (.literal (.text value)) place below
        :: more))
      0 span value

/-- A site of a tree. -/
structure ImportSite where
  /-- The route to the node that imports. -/
  route : List Nat
  /-- The number under which it does. -/
  number : Nat
  /-- The text that the construct covers. -/
  span : Span
  /-- What is imported. -/
  specifier : String

/-- A tree has a site: the node at the end of its route imports just that. -/
def Tree.HasSite (tree : Tree) (site : ImportSite) : Prop :=
  ∃ s, tree.at? site.route = some s
    ∧ ImportsAs s site.number site.span site.specifier

/-! ## The order of sites -/

/-- What a site and its occurrence have in common: where the construct starts
and what is imported. -/
structure Key where
  /-- The line of the construct. -/
  line : Nat
  /-- The column of the construct. -/
  column : Nat
  /-- What is imported. -/
  specifier : String

namespace Key

/-- Whether one construct starts no later than another. -/
def notAfter (a b : Key) : Bool :=
  a.line < b.line || (a.line == b.line && a.column ≤ b.column)

theorem notAfter_iff {a b : Key} :
    a.notAfter b = true ↔ a.line < b.line ∨ a.line = b.line ∧ a.column ≤ b.column := by
  simp [notAfter]

theorem notAfter_trans {a b c : Key} (hab : a.notAfter b = true) (hbc : b.notAfter c = true) :
    a.notAfter c = true := by
  rw [notAfter_iff] at hab hbc ⊢
  omega

theorem notAfter_total (a b : Key) : (a.notAfter b || b.notAfter a) = true := by
  rw [Bool.or_eq_true, notAfter_iff, notAfter_iff]
  omega

end Key

/-- The key of an occurrence. -/
def Found.key (found : Found) : Key := ⟨found.line, found.column, found.occurrence.specifier⟩

namespace ImportSite

/-- The key of a site. -/
def key (site : ImportSite) : Key := ⟨site.span.line, site.span.column, site.specifier⟩

/-- A site is visited before another one: its node is, or it has the smaller
number at the same node. -/
def Visited (a b : ImportSite) : Prop := a.route < b.route ∨ a.route = b.route ∧ a.number < b.number

/-- A site is listed before another one: its construct starts before that of
the other, or at the same place and is visited before it. -/
def Before (a b : ImportSite) : Prop :=
  a.span.line < b.span.line ∨ a.span.line = b.span.line
    ∧ (a.span.column < b.span.column ∨ a.span.column = b.span.column ∧ a.Visited b)

theorem before_iff {a b : ImportSite} :
    a.Before b ↔ a.key.notAfter b.key = true
      ∧ (b.key.notAfter a.key = true → a.Visited b) := by
  rw [Key.notAfter_iff, Key.notAfter_iff, Before]
  dsimp only [key]
  by_cases hvisited : a.Visited b
  · simp only [hvisited, and_true, implies_true]
    omega
  · simp only [hvisited, and_false, or_false, imp_false]
    omega

theorem not_visited_self (a : ImportSite) : ¬ a.Visited a := by
  rintro (h | ⟨-, h⟩)
  · exact List.lt_irrefl _ h
  · exact Nat.lt_irrefl _ h

theorem not_before_self (a : ImportSite) : ¬ a.Before a := by
  intro h
  rw [before_iff] at h
  exact not_visited_self a (h.2 h.1)

end ImportSite

/-! ## The sites of a node -/

theorem isImporter_iff {function : Tree} : isImporter function = true ↔ Importer function := by
  constructor
  · intro h
    unfold isImporter at h
    split at h
    · rename_i id span below
      obtain rfl | rfl := of_decide_eq_true h
      · exact .imported
      · exact .builtIn
    · exact .qualified
    · cases h
  · rintro (_ | _ | _)
    · rfl
    · rfl
    · rfl

/-- The site of an imported module with the given number. -/
def moduleSite (route : List Nat) (number : Nat) : Tree → Option ImportSite
  | .node (.alias name) span _ => some ⟨route, number, span, name⟩
  | _ => none

/-- The sites of a node with the given route. -/
def nodeSites (route : List Nat) : Tree → List ImportSite
  | .node .importModules _ modules =>
    modules.zipIdx.filterMap fun (module, number) => moduleSite route number module
  | .node (.importFrom module level) span _ => [⟨route, 0, span, fromSpecifier module level⟩]
  | .node (.call (_ + 1)) span (function :: .node (.literal (.text value)) _ _ :: _) =>
    if isImporter function then [⟨route, 0, span, value⟩] else []
  | _ => []

theorem moduleSite_eq_some {route : List Nat} {number : Nat} {module : Tree}
    {site : ImportSite} :
    moduleSite route number module = some site ↔ site.route = route ∧ site.number = number
      ∧ ∃ below, module = .node (.alias site.specifier) site.span below := by
  constructor
  · intro h
    unfold moduleSite at h
    split at h
    · cases h
      exact ⟨rfl, rfl, _, rfl⟩
    · cases h
  · rintro ⟨rfl, rfl, below, rfl⟩
    rfl

/-- The sites of a node are what it imports by itself. -/
theorem mem_nodeSites {route : List Nat} {node : Tree} {site : ImportSite} :
    site ∈ nodeSites route node
      ↔ site.route = route ∧ ImportsAs node site.number site.span site.specifier := by
  obtain ⟨there, number, span, specifier⟩ := site
  constructor
  · intro h
    unfold nodeSites at h
    split at h
    · obtain ⟨⟨tree, count⟩, hitem, hsite⟩ := List.mem_filterMap.mp h
      obtain ⟨rfl, rfl, below, rfl⟩ := moduleSite_eq_some.mp hsite
      exact ⟨rfl, .module (List.mem_zipIdx_iff_getElem?.mp hitem)⟩
    · cases List.mem_singleton.mp h
      exact ⟨rfl, .members⟩
    · split at h
      · rename_i himporter
        cases List.mem_singleton.mp h
        exact ⟨rfl, .call (isImporter_iff.mp himporter)⟩
      · cases h
    · cases h
  · rintro ⟨rfl, h⟩
    cases h with
    | @module _ _ _ below _ _ hitem =>
      exact List.mem_filterMap.mpr ⟨(.node (.alias specifier) span below, number),
        List.mem_zipIdx_iff_getElem?.mpr hitem, rfl⟩
    | members => exact List.mem_singleton.mpr rfl
    | call himporter =>
      rw [nodeSites, if_pos (isImporter_iff.mpr himporter)]
      exact List.mem_singleton.mpr rfl

/-- The sites of a node are in the order of their numbers. -/
theorem pairwise_nodeSites (route : List Nat) (node : Tree) :
    (nodeSites route node).Pairwise ImportSite.Visited := by
  unfold nodeSites
  split
  · rename_i modules
    have hnumbers : modules.zipIdx.Pairwise fun a b => a.2 < b.2 := by
      rw [← List.pairwise_map (f := Prod.snd) (R := (· < ·)), List.zipIdx_map_snd]
      exact List.pairwise_lt_range'
    refine List.pairwise_filterMap.mpr (hnumbers.imp fun hlt a ha b hb => ?_)
    obtain ⟨haroute, hanumber, -⟩ := moduleSite_eq_some.mp ha
    obtain ⟨hbroute, hbnumber, -⟩ := moduleSite_eq_some.mp hb
    exact .inr ⟨haroute.trans hbroute.symm, by rwa [hanumber, hbnumber]⟩
  · exact List.pairwise_singleton _ _
  · split
    · exact List.pairwise_singleton _ _
    · exact List.Pairwise.nil
  · exact List.Pairwise.nil

/-! ## Occurrences and sites -/

@[simp] theorem specifier_located (text : List Char) (specifier : String) (start : Nat) :
    (located text specifier start).specifier = specifier := by
  unfold located
  dsimp only
  split
  · rfl
  · rfl

@[simp] theorem specifier_locatedBehindFrom (text : List Char) (specifier : String)
    (start : Nat) : (locatedBehindFrom text specifier start).specifier = specifier := by
  unfold locatedBehindFrom
  dsimp only
  split
  · rfl
  · exact specifier_located _ _ _

@[simp] theorem specifier_locatedLiteral (text : List Char) (value : String) (start stop : Nat) :
    (locatedLiteral text value start stop).specifier = value := by
  unfold locatedLiteral
  split
  · dsimp only
    split
    · rfl
    · rfl
  · rfl

theorem map_key_aliasFound (text : List Char) (route : List Nat) (number : Nat)
    (module : Tree) :
    (aliasFound text module).map Found.key
      = (moduleSite route number module).map ImportSite.key := by
  fun_cases aliasFound text module with
  | case1 name span below => simp [moduleSite, Found.key, ImportSite.key]
  | case2 module hmodule =>
    cases hsite : moduleSite route number module with
    | none => rfl
    | some site =>
      obtain ⟨-, -, below, rfl⟩ := moduleSite_eq_some.mp hsite
      exact absurd rfl (hmodule _ _ below)

/-- A node finds one occurrence for each of its sites. -/
theorem map_key_nodeFound (text : List Char) (route : List Nat) (node : Tree) :
    (nodeFound text node).map Found.key = (nodeSites route node).map ImportSite.key := by
  fun_cases nodeFound text node with
  | case1 span modules =>
    rw [nodeSites, List.map_filterMap, List.map_filterMap]
    conv_lhs => rw [← List.zipIdx_map_fst 0 modules, List.filterMap_map]
    exact List.filterMap_congr fun item _ => map_key_aliasFound text route item.2 item.1
  | case2 module level span below => simp [nodeSites, Found.key, ImportSite.key]
  | case3 positional span function value place below more himporter =>
    rw [nodeSites, if_pos himporter]
    by_cases hline : place.line = place.endLine
    · simp [hline, Found.key, ImportSite.key]
    · simp [hline, Found.key, ImportSite.key, Occurrence.unknown]
  | case4 positional span function value place below more himporter =>
    rw [nodeSites, if_neg himporter]
    rfl
  | case5 node hmodules hmembers hcall =>
    have hnone : nodeSites route node = [] := by
      refine List.eq_nil_iff_forall_not_mem.mpr fun site hsite => ?_
      obtain ⟨there, number, span, specifier⟩ := site
      obtain ⟨-, himports⟩ := mem_nodeSites.mp hsite
      cases himports with
      | module _ => exact hmodules _ _ rfl
      | members => exact hmembers _ _ _ _ rfl
      | call _ => exact hcall _ _ _ _ _ _ _ rfl
    rw [hnone]
    rfl

/-- The sites of a tree in the order of the visit. -/
def Tree.sites (tree : Tree) : List ImportSite :=
  tree.visit.flatMap fun (route, s) => nodeSites route s

theorem Tree.mem_sites {tree : Tree} {site : ImportSite} :
    site ∈ tree.sites ↔ tree.HasSite site := by
  unfold Tree.sites Tree.HasSite
  rw [List.mem_flatMap]
  constructor
  · rintro ⟨⟨route, s⟩, hvisit, hsite⟩
    obtain ⟨rfl, himports⟩ := mem_nodeSites.mp hsite
    exact ⟨s, (Tree.mem_visit tree).mp hvisit, himports⟩
  · rintro ⟨s, hs, himports⟩
    exact ⟨(site.route, s), (Tree.mem_visit tree).mpr hs, mem_nodeSites.mpr ⟨rfl, himports⟩⟩

theorem Tree.pairwise_sites (tree : Tree) : tree.sites.Pairwise ImportSite.Visited := by
  refine List.pairwise_flatMap.mpr ⟨fun item _ => pairwise_nodeSites item.1 item.2, ?_⟩
  refine (Tree.pairwise_visit tree).imp fun {a b} hlt x hx y hy => .inl ?_
  rwa [(mem_nodeSites.mp hx).1, (mem_nodeSites.mp hy).1]

theorem Tree.map_key_found (text : List Char) (tree : Tree) :
    (tree.preorder.flatMap (nodeFound text)).map Found.key = tree.sites.map ImportSite.key := by
  rw [← Tree.map_visit, List.flatMap_map, Tree.sites, List.map_flatMap, List.map_flatMap]
  exact List.flatMap_congr fun item _ => map_key_nodeFound text item.1 item.2

/-- The sites of a tree in the order of the text. -/
def Tree.sorted (tree : Tree) : List ImportSite :=
  tree.sites.mergeSort fun a b => a.key.notAfter b.key

/-- The occurrences of a tree have the specifiers of its sites, in the order
of the text. -/
theorem Tree.map_specifier_imports (text : List Char) (tree : Tree) :
    (tree.imports text).map (·.specifier) = tree.sorted.map (·.specifier) := by
  have hfound : ((tree.preorder.flatMap (nodeFound text)).mergeSort Found.notAfter).map Found.key
      = ((tree.preorder.flatMap (nodeFound text)).map Found.key).mergeSort Key.notAfter :=
    List.map_mergeSort fun _ _ _ _ => rfl
  have hsites : tree.sorted.map ImportSite.key
      = (tree.sites.map ImportSite.key).mergeSort Key.notAfter :=
    List.map_mergeSort fun _ _ _ _ => rfl
  rw [Tree.map_key_found, ← hsites] at hfound
  have hspecifiers := congrArg (List.map Key.specifier) hfound
  rw [List.map_map, List.map_map] at hspecifiers
  rw [Tree.imports, List.map_map]
  exact hspecifiers

theorem Tree.pairwise_sorted (tree : Tree) : tree.sorted.Pairwise ImportSite.Before := by
  have hsorted := Tree.pairwise_mergeSort_of_pairwise
    (fun a b c : ImportSite => @Key.notAfter_trans a.key b.key c.key)
    (fun a b => Key.notAfter_total a.key b.key) tree.pairwise_sites
  exact hsorted.imp ImportSite.before_iff.mpr

/-! ## The list of imports -/

/-- The imports of a text that the parser accepts are those of its tree: such
a text has no byte order mark before it. -/
theorem imports_of_parse [CharacterNames] {text : List Char} {tree : Tree}
    (h : parse (String.ofList text) = .ok tree) : imports text = tree.imports text := by
  have hof : importsOf text = tree.imports text := by rw [importsOf, h]
  cases text with
  | nil => exact hof
  | cons c rest =>
    by_cases hmark : c = byteOrderMark
    · obtain ⟨fault, hfault⟩ := parse_mark rest
      rw [hmark, hfault] at h
      cases h
    · rw [imports, if_neg hmark, hof]

/-- **No import is lost, repeated or moved.** The occurrences of a tree are its
sites one for one: there is a list without repetitions of exactly the sites of
the tree, wherever they are, in the order of their constructs and among those
that start at the same place in the order of the visit, and its specifiers are
those of the occurrences. This is so for every tree, and for a text that the
parser accepts the occurrences are those of its tree. -/
theorem imports_listed [CharacterNames] (text : List Char) (tree : Tree) :
    (∃ sites : List ImportSite, (∀ site, site ∈ sites ↔ tree.HasSite site)
      ∧ sites.Nodup ∧ sites.Pairwise ImportSite.Before
      ∧ (tree.imports text).map (·.specifier) = sites.map (·.specifier))
    ∧ (parse (String.ofList text) = .ok tree → imports text = tree.imports text) := by
  have hordered := tree.pairwise_sorted
  have hnodup : tree.sorted.Nodup := by
    refine hordered.imp fun hbefore heq => ?_
    rw [heq] at hbefore
    exact ImportSite.not_before_self _ hbefore
  exact ⟨⟨tree.sorted, fun site => List.mem_mergeSort.trans Tree.mem_sites, hnodup, hordered,
    tree.map_specifier_imports text⟩, imports_of_parse⟩

/-- A decorator that imports in an argument of an import, above a function
that imports. -/
def decorated : List Char :=
  "@__import__('a', __import__('b'))\ndef f(): from .c import d\n".toList

/-- The visit comes to a decorator after the body of its function, and the
list has it before the body. -/
theorem imports_listed_decorated :
    ∃ tree, ∃ sites : List ImportSite, parse (String.ofList decorated) = .ok tree
      ∧ (tree.preorder.flatMap (nodeFound decorated)).map (·.occurrence.specifier)
        = [".c", "a", "b"]
      ∧ (∀ site, site ∈ sites ↔ tree.HasSite site)
      ∧ sites.map (·.specifier) = ["a", "b", ".c"]
      ∧ (imports decorated).map (·.specifier) = ["a", "b", ".c"] := by
  have hvisit : ((parse (String.ofList decorated)).toOption.map
      fun tree => tree.preorder.flatMap (nodeFound decorated))
      = some [⟨2, 9, ⟨".c", 48, 50⟩⟩, ⟨1, 1, ⟨"a", 13, 14⟩⟩, ⟨1, 17, ⟨"b", 29, 30⟩⟩] := by
    decide +kernel
  obtain ⟨tree, htree, hfound⟩ := Option.map_eq_some_iff.mp hvisit
  have hparse := toOption_eq_some.mp htree
  have himports : (tree.imports decorated).map (·.specifier) = ["a", "b", ".c"] := by
    rw [Tree.imports, hfound]
    simp [List.mergeSort, List.MergeSort.Internal.splitInTwo, Found.notAfter]
  obtain ⟨⟨sites, hsites, -, -, hspecifiers⟩, hparsed⟩ := imports_listed decorated tree
  refine ⟨tree, sites, hparse, ?_, hsites, ?_, ?_⟩
  · rw [hfound]
    rfl
  · rw [← hspecifiers, himports]
  · rw [hparsed hparse, himports]

end ImportPolicy.Source

import Harvest.Html.Text
import Harvest.Proofs.Html.Phases
/-!
The text of an element without recursion. Every address below the element is judged by itself: the
node there adds its own text, a text node what it says and a `br` a line feed, unless something on
the way to it is a script, a style sheet or no element at all. The text of the element is all of
this in the order of the document, if no `br` holds anything.
-/

namespace Harvest.Html

/-- Whether the text that a node holds is to be read. -/
def Node.isOpen : Node → Bool
  | .element t _ => !isCode t
  | _ => false

/-- What a node adds to a text by itself. -/
def Node.ownText : Node → List Char
  | .text s => s.toList
  | .element t _ => if t.name = "br" then ['\n'] else []
  | _ => []

/-- What the node at an address below a node adds to its text. -/
def Node.share (n : Node) (a : List Nat) : List Char :=
  if ∀ k < a.length, (n.at? (a.take k)).any Node.isOpen then ((n.at? a).map Node.ownText).getD []
  else []

/-- What the node at an address below some nodes adds to their text. -/
def share (nodes : List Node) (a : List Nat) : List Char :=
  if ∀ k < a.length, 0 < k → (at? nodes (a.take k)).any Node.isOpen then
    ((at? nodes a).map Node.ownText).getD []
  else []

theorem Node.share_nil (n : Node) : n.share [] = n.ownText := by
  simp [Node.share, Node.at?]

theorem share_cons {nodes : List Node} {i : Nat} {n : Node} (h : nodes[i]? = some n)
    (a : List Nat) : share nodes (i :: a) = n.share a := by
  have hat : ∀ b, at? nodes (i :: b) = n.at? b := fun b => by simp [at?, h]
  have hway : (∀ k < (i :: a).length, 0 < k → (at? nodes ((i :: a).take k)).any Node.isOpen) ↔
      ∀ k < a.length, (n.at? (a.take k)).any Node.isOpen := by
    constructor
    · intro hk k hlt
      have hnext := hk (k + 1) (Nat.succ_lt_succ hlt) (Nat.succ_pos k)
      rwa [List.take_succ_cons, hat] at hnext
    · rintro hk (_ | k) hlt hpos
      · cases hpos
      · rw [List.take_succ_cons, hat]
        exact hk k (Nat.lt_of_succ_lt_succ hlt)
  simp only [share, Node.share, hway, hat]

theorem Node.share_cons_of_open {n : Node} (h : n.isOpen = true) (i : Nat) (a : List Nat) :
    n.share (i :: a) = Html.share n.children (i :: a) := by
  have hway : (∀ k < (i :: a).length, (n.at? ((i :: a).take k)).any Node.isOpen) ↔
      ∀ k < (i :: a).length, 0 < k → (Html.at? n.children ((i :: a).take k)).any Node.isOpen := by
    constructor
    · rintro hk (_ | k) hlt hpos
      · cases hpos
      · exact hk (k + 1) hlt
    · rintro hk (_ | k) hlt
      · simpa [Node.at?] using h
      · exact hk (k + 1) hlt (Nat.succ_pos k)
  simp only [Node.share, Html.share, hway]
  rfl

theorem Node.share_cons_of_not_open {n : Node} (h : n.isOpen = false) (i : Nat) (a : List Nat) :
    n.share (i :: a) = [] := by
  refine if_neg fun hk => ?_
  have hself := hk 0 (Nat.succ_pos _)
  simp [Node.at?, h] at hself

theorem flatMap_addressesFrom {nodes : List Node}
    (h : ∀ n ∈ nodes, n.addresses.flatMap n.share = n.flatText.toList) (before : List Node) :
    (addressesFrom before.length nodes).flatMap (share (before ++ nodes)) =
      (flatTextOf nodes).toList := by
  induction nodes generalizing before with
  | nil => simp [addressesFrom, flatTextOf]
  | cons n r ih =>
    have hhere : (before ++ n :: r)[before.length]? = some n := by simp
    have hrest := ih (fun m hm => h m (List.mem_cons_of_mem n hm)) (before ++ [n])
    rw [List.length_append, List.length_singleton, List.append_assoc,
      List.singleton_append] at hrest
    rw [addressesFrom, List.flatMap_append, hrest, List.flatMap_map, flatTextOf,
      String.toList_append, ← h n List.mem_cons_self]
    congr 2
    funext a
    exact share_cons hhere a

theorem Node.flatMap_share_of_not_open {n : Node} (h : n.isOpen = false) :
    (addressesFrom 0 n.children).flatMap n.share = [] := by
  refine List.flatMap_eq_nil_iff.2 fun a ha => ?_
  obtain ⟨j, b, rfl, -⟩ := (mem_addressesFrom (fun m _ => m.mem_addresses) _ _).1 ha
  exact share_cons_of_not_open h _ b

theorem Node.flatMap_share_of_open {n : Node} (h : n.isOpen = true) :
    (addressesFrom 0 n.children).flatMap n.share =
      (addressesFrom 0 n.children).flatMap (Html.share n.children) := by
  refine List.flatMap_congr fun a ha => ?_
  obtain ⟨j, b, rfl, -⟩ := (mem_addressesFrom (fun m _ => m.mem_addresses) _ _).1 ha
  exact share_cons_of_open h _ b

/-- The text of a node by its own share and by what it holds. -/
theorem Node.toList_flatText (n : Node)
    (hbreak : ∀ t c, n = .element t c → t.name = "br" → c = []) :
    n.flatText.toList =
      n.ownText ++ if n.isOpen then (flatTextOf n.children).toList else [] := by
  cases n with
  | text | comment | contents => simp [flatText, ownText, isOpen]
  | element t c =>
    by_cases hbr : t.name = "br"
    · have hc := hbreak t c rfl hbr
      simp [flatText, ownText, hbr, hc, children, flatTextOf]
    · by_cases hcode : isCode t <;> simp [flatText, ownText, isOpen, hbr, hcode, children]

theorem Node.flatMap_addresses (n : Node)
    (hbreak : ∀ t c, n = .element t c → t.name = "br" → c = [])
    (hbelow : BreaksEmpty n.children) : n.addresses.flatMap n.share = n.flatText.toList := by
  induction n using Node.induct with
  | h n ih =>
    have hchildren : ∀ m ∈ n.children, m.addresses.flatMap m.share = m.flatText.toList := by
      intro m hm
      obtain ⟨i, hi⟩ := List.mem_iff_getElem?.1 hm
      have hat : Html.at? n.children [i] = some m := by simp [Html.at?, hi, Node.at?]
      refine ih m hm ?_ (hbelow.below hat)
      rintro t c rfl
      exact hbelow [i] t c hat
    rw [addresses_eq, List.flatMap_cons, share_nil, n.toList_flatText hbreak]
    congr 1
    cases hopen : n.isOpen with
    | false => exact flatMap_share_of_not_open hopen
    | true =>
      rw [flatMap_share_of_open hopen]
      exact flatMap_addressesFrom hchildren []

theorem BreaksEmpty.flatTextOf_eq {nodes : List Node} (h : BreaksEmpty nodes) :
    (flatTextOf nodes).toList = (addressesFrom 0 nodes).flatMap (share nodes) := by
  refine (flatMap_addressesFrom (fun n hn => ?_) []).symm
  obtain ⟨i, hi⟩ := List.mem_iff_getElem?.1 hn
  have hat : at? nodes [i] = some n := by simp [at?, hi, Node.at?]
  refine n.flatMap_addresses ?_ (h.below hat)
  rintro t c rfl
  exact h [i] t c hat

theorem Document.breaksEmpty_nodes {text : String} {p : Place} (hp : p ∈ (parse text).elements) :
    BreaksEmpty p.nodes := by
  obtain ⟨hnodes, hlost⟩ := breaksEmpty_parse text
  cases ((parse text).exists_mem_elements (t := p.tag) (c := p.nodes)).1 ⟨p, hp, rfl⟩ with
  | standing hat => exact hnodes.below hat
  | @belowLost u nodes a hmem hat =>
    obtain ⟨i, hi⟩ := List.mem_iff_getElem?.1 hmem
    have hbody : at? (parse text).lost [i] = some (.element u nodes) := by
      simp [at?, hi, Node.at?]
    exact BreaksEmpty.below (hlost.below hbody) hat

/-- What a node holding an element adds to the text around it. -/
theorem Place.flatText_selfNode (p : Place) : p.selfNode.flatText =
    if p.tag.name = "br" then "\n" else if isCode p.tag then "" else p.flatText :=
  rfl

theorem flatTextOf_eq_flatMap (nodes : List Node) :
    (flatTextOf nodes).toList = nodes.flatMap fun n => n.flatText.toList := by
  induction nodes with
  | nil => rfl
  | cons n r ih => rw [flatTextOf, String.toList_append, ih, List.flatMap_cons]

/-- The text of every element of every document, in the order of the document: what each node below
the element adds, no character lost or put in. What the children add makes it up. -/
theorem Document.flatText_of_mem_parse (text : String) (p : Place)
    (hp : p ∈ (parse text).elements) :
    (∃ l, IsDocumentOrder p.nodes l) ∧
      (∀ l, IsDocumentOrder p.nodes l → p.flatText.toList = l.flatMap (share p.nodes)) ∧
      p.flatText.toList = p.nodes.flatMap (fun n => n.flatText.toList) ∧
      ∀ q : Place, q.selfNode ∈ p.nodes → q.selfNode.flatText =
        if q.tag.name = "br" then "\n" else if isCode q.tag then "" else q.flatText := by
  have horder := isDocumentOrder_addressesFrom p.nodes
  refine ⟨⟨_, horder⟩, fun l hl => ?_, flatTextOf_eq_flatMap p.nodes,
    fun q _ => q.flatText_selfNode⟩
  rw [hl.unique horder]
  exact (breaksEmpty_nodes hp).flatTextOf_eq

/-- A paragraph with a line break, a comment, a script and a template in it, and blanks around. -/
theorem Document.exists_flatText_of_mem_parse :
    ∃ p ∈ (parse "<p> a<br><b>b </b><!--c--><script>d</script><template>e</template> \n").elements,
      p.flatText.toList = [' ', 'a', '\n', 'b', ' ', ' ', '\n'] ∧
        ∃ l, IsDocumentOrder p.nodes l ∧ p.flatText.toList = l.flatMap (share p.nodes) := by
  have hat : (at? (parse
      "<p> a<br><b>b </b><!--c--><script>d</script><template>e</template> \n").nodes [0, 1, 0]).any
      (fun
        | .element _ c => (flatTextOf c).toList = [' ', 'a', '\n', 'b', ' ', ' ', '\n']
        | _ => false) = true := by
    decide +kernel
  obtain ⟨n, hn, htext⟩ := (Option.any_eq_true _ _).1 hat
  cases n with
  | element t c =>
    obtain ⟨p, hp, hself⟩ := (exists_mem_elements _).2 (.standing hn)
    obtain ⟨-, rfl⟩ := Node.element.inj hself
    obtain ⟨⟨l, hl⟩, horder, -⟩ := flatText_of_mem_parse _ p hp
    exact ⟨p, hp, by simpa [Place.flatText] using htext, l, hl, horder l hl⟩
  | _ => cases htext

end Harvest.Html

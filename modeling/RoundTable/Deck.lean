import RoundTable.Catalogue

/-!
# The deck

The cards of the game, by family, and the two things printed on a seat: a role and a character.
Bug reports attack, excuses deflect, stumbling cards lie in front of a player and must be dealt with
before drawing.

## Main definitions

* `BugReport`, `Excuse`, `Solution`, `SpecialAction`, `Stumbling`: the families of cards
* `Card`, `Card.kind`, `Card.bug?`: a card of any family
* `Role`, `Character`: what a player is and who
* `playingDeck`: the deck a game starts with
-/

namespace RoundTable

/-! ### Families -/

/-- A bug report, the card to attack with. -/
inductive BugReport where
  | nullPointer | offByOne | classNotFound | systemHangs | coreDump | customerHatesUi
  deriving DecidableEq

instance : Catalogue BugReport where
  all := [.nullPointer, .offByOne, .classNotFound, .systemHangs, .coreDump, .customerHatesUi]
  name
    | .nullPointer => "NullPointer"
    | .offByOne => "OffByOne"
    | .classNotFound => "ClassNotFound"
    | .systemHangs => "SystemHangs"
    | .coreDump => "CoreDump"
    | .customerHatesUi => "CustomerHatesUi"

/-- An excuse, the card to deflect an attack with. -/
inductive Excuse where
  | worksForMe | itsAFeature | imNotResponsible
  deriving DecidableEq

instance : Catalogue Excuse where
  all := [.worksForMe, .itsAFeature, .imNotResponsible]
  name
    | .worksForMe => "WorksForMe"
    | .itsAFeature => "ItsAFeature"
    | .imNotResponsible => "ImNotResponsible"

/-- A solution. -/
inductive Solution where
  | coffee | codeFixSession | regularExpression
  deriving DecidableEq

instance : Catalogue Solution where
  all := [.coffee, .codeFixSession, .regularExpression]
  name
    | .coffee => "Coffee"
    | .codeFixSession => "CodeFixSession"
    | .regularExpression => "RegularExpression"

/-- A special action. -/
inductive SpecialAction where
  | refactoring | pwnd | systemIntegration | standupMeeting | boringMeeting | coffeeMachine
  | lanParty | redBullDispenser | heisenbug
  deriving DecidableEq

namespace SpecialAction

instance : Catalogue SpecialAction where
  all := [.refactoring, .pwnd, .systemIntegration, .standupMeeting, .boringMeeting,
    .coffeeMachine, .lanParty, .redBullDispenser, .heisenbug]
  name
    | .refactoring => "Refactoring"
    | .pwnd => "Pwnd"
    | .systemIntegration => "SystemIntegration"
    | .standupMeeting => "StandupMeeting"
    | .boringMeeting => "BoringMeeting"
    | .coffeeMachine => "CoffeeMachine"
    | .lanParty => "LanParty"
    | .redBullDispenser => "RedBullDispenser"
    | .heisenbug => "Heisenbug"

/-- How many copies of the card a playing deck has. -/
def copies : SpecialAction → Nat
  | .refactoring | .pwnd => 4
  | .systemIntegration => 3
  | .standupMeeting | .coffeeMachine | .boringMeeting => 2
  | .lanParty | .heisenbug | .redBullDispenser => 1

end SpecialAction

/-- A stumbling card, which lies in front of a player. -/
inductive Stumbling where
  | fortranMaintenance | offTheJobTraining
  deriving DecidableEq

instance : Catalogue Stumbling where
  all := [.fortranMaintenance, .offTheJobTraining]
  name
    | .fortranMaintenance => "FortranMaintenance"
    | .offTheJobTraining => "OffTheJobTraining"

/-! ### Cards -/

/-- The families of cards. -/
inductive CardKind where
  | bugReport | excuse | solution | specialAction | stumbling
  deriving DecidableEq

instance : Catalogue CardKind where
  all := [.bugReport, .excuse, .solution, .specialAction, .stumbling]
  name
    | .bugReport => "BugReport"
    | .excuse => "Excuse"
    | .solution => "Solution"
    | .specialAction => "SpecialAction"
    | .stumbling => "Stumbling"

/-- A card. -/
inductive Card where
  | bug (report : BugReport)
  | excuse (excuse : Excuse)
  | solution (solution : Solution)
  | special (action : SpecialAction)
  | stumbling (block : Stumbling)
  deriving DecidableEq

namespace Card

/-- The family of a card. -/
def kind : Card → CardKind
  | bug _ => .bugReport
  | excuse _ => .excuse
  | solution _ => .solution
  | special _ => .specialAction
  | stumbling _ => .stumbling

/-- The bug that a bug report reports. -/
def bug? : Card → Option BugReport
  | bug report => some report
  | _ => none

instance : Text.HasForm Card where
  form
    | bug report => .tuple "Bug" [Text.form report]
    | excuse e => .tuple "Excuse" [Text.form e]
    | solution s => .tuple "Solution" [Text.form s]
    | special action => .tuple "Special" [Text.form action]
    | stumbling block => .tuple "Stumbling" [Text.form block]

/-- Where a card stands in the order of the catalogue: its family, then its place in the family. -/
def rank : Card → Nat × Nat
  | bug report => (0, Catalogue.rank report)
  | excuse e => (1, Catalogue.rank e)
  | solution s => (2, Catalogue.rank s)
  | special action => (3, Catalogue.rank action)
  | stumbling block => (4, Catalogue.rank block)

/-- Whether a card stands no later than another in the order of the catalogue. -/
def notAfter (a b : Card) : Bool :=
  a.rank.1 < b.rank.1 || (a.rank.1 == b.rank.1 && a.rank.2 ≤ b.rank.2)

/-- The cards in the order of the catalogue. -/
def sort (cards : List Card) : List Card := cards.mergeSort notAfter

end Card

/-- The deck a game starts with: four of each bug report, two of each solution, four of each excuse
and the special actions in their numbers, family by family. -/
def playingDeck : List Card :=
  (Catalogue.all : List BugReport).flatMap (fun b => List.replicate 4 (.bug b)) ++
    (Catalogue.all : List Solution).flatMap (fun s => List.replicate 2 (.solution s)) ++
    (Catalogue.all : List Excuse).flatMap (fun e => List.replicate 4 (.excuse e)) ++
    (Catalogue.all : List SpecialAction).flatMap (fun a => List.replicate a.copies (.special a))

/-! ### Roles and characters -/

/-- What a player is trying to do. -/
inductive Role where
  | manager | consultant | honestDeveloper | evilCodeMonkey
  deriving DecidableEq

instance : Catalogue Role where
  all := [.manager, .consultant, .honestDeveloper, .evilCodeMonkey]
  name
    | .manager => "Manager"
    | .consultant => "Consultant"
    | .honestDeveloper => "HonestDeveloper"
    | .evilCodeMonkey => "EvilCodeMonkey"

/-- Who a player is. -/
inductive Character where
  | markZuckerberg | kentBeck | steveJobs | linusTorvalds | konradZuse | dummy
  deriving DecidableEq

namespace Character

instance : Catalogue Character where
  all := [.markZuckerberg, .kentBeck, .steveJobs, .linusTorvalds, .konradZuse, .dummy]
  name
    | .markZuckerberg => "MarkZuckerberg"
    | .kentBeck => "KentBeck"
    | .steveJobs => "SteveJobs"
    | .linusTorvalds => "LinusTorvalds"
    | .konradZuse => "KonradZuse"
    | .dummy => "Dummy"

/-- The mental health a character starts with. -/
def mentalHealth : Character → UInt32
  | .markZuckerberg | .konradZuse => 3
  | _ => 4

end Character

end RoundTable

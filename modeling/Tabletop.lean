import Tabletop.Main
import Tabletop.Proofs.Creature.Dying
import Tabletop.Proofs.Encounter.Lifetime
import Tabletop.Proofs.Encounter.Discipline
import Tabletop.Proofs.Encounter.Economy
import Tabletop.Proofs.Encounter.Account
import Tabletop.Proofs.Encounter.Chronicle
import Tabletop.Proofs.Encounter.Order
import Tabletop.Proofs.Encounter.Current
import Tabletop.Proofs.Formula.Grammar
import Tabletop.Proofs.Formula.Keywords
import Tabletop.Proofs.Formula.Canonical
import Tabletop.Proofs.Roll.Draws
import Tabletop.Proofs.Encounter.Commute
import Tabletop.Proofs.Encounter.Landing
import Tabletop.Proofs.Roll.Division
import Tabletop.Proofs.Encounter.Attack
import Tabletop.Proofs.Encounter.Initiative
import Tabletop.Proofs.Roll.Total
import Tabletop.Proofs.Roll.Written
import Tabletop.Proofs.Creature.Damage
import Tabletop.Proofs.Formula.Circumstances
import Tabletop.Proofs.Creature.Portions
import Tabletop.Proofs.Roll.HitPoints
import Tabletop.Proofs.Roll.Display
import Tabletop.Proofs.Creature.Aging

import LinkRouting.Dispatcher.History
import LinkRouting.Path.Canonical
import LinkRouting.Pattern.Canonical
import LinkRouting.Pattern.Grammar
import LinkRouting.Proofs.Dispatcher.BarePath
import LinkRouting.Proofs.Dispatcher.Query
import LinkRouting.Proofs.Dispatcher.Routes
import LinkRouting.Proofs.Pattern.Rules
import LinkRouting.Proofs.RouteTable.Acceptance
import LinkRouting.Proofs.RouteTable.Captures
import LinkRouting.Proofs.RouteTable.Cutting
import LinkRouting.Proofs.RouteTable.Decoding
import LinkRouting.Proofs.RouteTable.Discipline
import LinkRouting.Proofs.RouteTable.Flat
import LinkRouting.Proofs.RouteTable.Globs
import LinkRouting.Proofs.RouteTable.Growth
import LinkRouting.Proofs.RouteTable.Order
import LinkRouting.Proofs.RouteTable.OwnText
import LinkRouting.Proofs.RouteTable.Repetition
import LinkRouting.Proofs.RouteTable.Spelling
import LinkRouting.Proofs.RouteTable.Unexpected
import LinkRouting.RouteTable.Flat
import LinkRouting.RouteTable.History
import LinkRouting.Trie.Compile
import LinkRouting.Trie.Growth
import LinkRouting.Trie.Label
import LinkRouting.Trie.Outline
import LinkRouting.Proofs.Pattern.Stretch
import LinkRouting.Proofs.Trie.Compile

import Typeface.Main
import Typeface.Client.Visit
import Typeface.Descriptor.Store
import Typeface.Fault.Kind
import Typeface.Tour
import Typeface.Proofs.Catalog.Tables
import Typeface.Proofs.Cli.Logging
import Typeface.Proofs.Cli.Resolve
import Typeface.Proofs.Client.Atomicity
import Typeface.Proofs.Client.Containment
import Typeface.Proofs.Client.Decoding
import Typeface.Proofs.Client.Delivery
import Typeface.Proofs.Client.Escape
import Typeface.Proofs.Client.Lookup
import Typeface.Proofs.Client.Refusal
import Typeface.Proofs.Descriptor.Display
import Typeface.Proofs.Descriptor.Guard
import Typeface.Proofs.Descriptor.Locator
import Typeface.Proofs.Descriptor.Store
import Typeface.Proofs.Document.Drift
import Typeface.Proofs.Document.Lossless
import Typeface.Proofs.Document.RoundTrip
import Typeface.Proofs.Release
import Typeface.Proofs.Settings.Address
import Typeface.Proofs.Settings.Agreement
import Typeface.Proofs.Settings.App
import Typeface.Proofs.Settings.Closure
import Typeface.Proofs.Settings.Fallback
import Typeface.Proofs.Settings.Isolation
import Typeface.Proofs.Settings.Nested
import Typeface.Proofs.Settings.Precedence
import Typeface.Proofs.Cli.LogFormat
import Typeface.Proofs.Settings.Limits

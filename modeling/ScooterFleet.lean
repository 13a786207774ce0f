import ScooterFleet.Decimal.Layout
import ScooterFleet.Decimal.Numeral
import ScooterFleet.Decimal.Shortest
import ScooterFleet.Decimal.Word
import ScooterFleet.Device.Run
import ScooterFleet.Device.Session
import ScooterFleet.Http.MediaType
import ScooterFleet.Http.Request
import ScooterFleet.Http.Route
import ScooterFleet.Http.Service
import ScooterFleet.Json.Reading
import ScooterFleet.Json.Text
import ScooterFleet.Json.Value
import ScooterFleet.Kernel.Agenda
import ScooterFleet.Kernel.Broadcast
import ScooterFleet.Kernel.Bus
import ScooterFleet.Kernel.Gateway
import ScooterFleet.Kernel.Health
import ScooterFleet.Kernel.Hub
import ScooterFleet.Kernel.Registry
import ScooterFleet.Kernel.Rental
import ScooterFleet.Kernel.System
import ScooterFleet.Kernel.Wait
import ScooterFleet.Link.Channel
import ScooterFleet.Link.Pair
import ScooterFleet.Link.Socket
import ScooterFleet.Motion.Coordinate
import ScooterFleet.Motion.Position
import ScooterFleet.Motion.Profile
import ScooterFleet.Motion.Settings
import ScooterFleet.Motion.Simulation
import ScooterFleet.Record.Format
import ScooterFleet.Record.Json
import ScooterFleet.Record.Yaml
import ScooterFleet.Rehearsal.Acts
import ScooterFleet.Rehearsal.BusStop
import ScooterFleet.Rehearsal.Solo
import ScooterFleet.Rehearsal.Stage
import ScooterFleet.Settings.Device
import ScooterFleet.Settings.Kernel
import ScooterFleet.Store.Archive
import ScooterFleet.Store.Codec
import ScooterFleet.Store.Fleet
import ScooterFleet.Store.Ledger
import ScooterFleet.Store.Model
import ScooterFleet.Table
import ScooterFleet.Text.Blank
import ScooterFleet.Text.Timestamp
import ScooterFleet.Text.Uuid
import ScooterFleet.Wire.Codec
import ScooterFleet.Wire.Frame
import ScooterFleet.Yaml.Node
import ScooterFleet.Yaml.Scalar
import ScooterFleet.Yaml.Token
import ScooterFleet.Proofs.Registry.Call
import ScooterFleet.Proofs.Registry.Trip
import ScooterFleet.Proofs.Registry.Signal
import ScooterFleet.Proofs.Registry.Silence
import ScooterFleet.Proofs.Registry.Slot
import ScooterFleet.Proofs.Registry.Elsewhere
import ScooterFleet.Proofs.Registry.Tenure
import ScooterFleet.Proofs.Motion.Trace
import ScooterFleet.Proofs.Device.Session
import ScooterFleet.Proofs.Device.Deeds
import ScooterFleet.Proofs.Device.Itinerary
import ScooterFleet.Proofs.Device.Charge
import ScooterFleet.Proofs.Device.Report
import ScooterFleet.Proofs.Device.Stint
import ScooterFleet.Proofs.Device.Pacing
import ScooterFleet.Proofs.Store.Growth
import ScooterFleet.Proofs.Store.Saving
import ScooterFleet.Proofs.Decimal.Numeral
import ScooterFleet.Proofs.Fleet.Carriage
import ScooterFleet.Proofs.Fleet.Run
import ScooterFleet.Proofs.Fleet.Schedule
import ScooterFleet.Proofs.Fleet.Stride
import ScooterFleet.Proofs.Fleet.Chronicle
import ScooterFleet.Proofs.Fleet.Movement
import ScooterFleet.Proofs.Fleet.Provenance
import ScooterFleet.Proofs.Fleet.Rentals
import ScooterFleet.Proofs.Fleet.Status
import ScooterFleet.Proofs.Store.Numbering
import ScooterFleet.Proofs.Fleet.Estimate
import ScooterFleet.Proofs.Store.Dossier
import ScooterFleet.Proofs.Fleet.Completion
import ScooterFleet.Proofs.Fleet.Bookkeeping
import ScooterFleet.Proofs.Fleet.Vacancy
import ScooterFleet.Proofs.Text.Timestamp
import ScooterFleet.Proofs.Json.Spacing
import ScooterFleet.Proofs.Record.Fields
import ScooterFleet.Proofs.Store.Ledger
import ScooterFleet.Proofs.Store.Restart
import ScooterFleet.Proofs.Store.Leftover
import ScooterFleet.Proofs.Store.Allotment
import ScooterFleet.Proofs.Hub.Seat
import ScooterFleet.Proofs.Hub.Delivery
import ScooterFleet.Proofs.Gateway.Conduct
import ScooterFleet.Proofs.Gateway.Farewell
import ScooterFleet.Proofs.Fleet.Queue
import ScooterFleet.Proofs.Registry.Orders
import ScooterFleet.Proofs.Fleet.Redirect
import ScooterFleet.Proofs.Link.Ends
import ScooterFleet.Proofs.Gateway.Company
import ScooterFleet.Proofs.Gateway.Intake
import ScooterFleet.Proofs.Gateway.Isolation
import ScooterFleet.Proofs.Gateway.Commands
import ScooterFleet.Proofs.Gateway.Drain
import ScooterFleet.Proofs.Ride.Stage
import ScooterFleet.Proofs.Ride.Pair
import ScooterFleet.Proofs.Ride.Fate
import ScooterFleet.Proofs.Ride.Attendance
import ScooterFleet.Proofs.Ride.Errand
import ScooterFleet.Proofs.Ride.Prospect
import ScooterFleet.Proofs.Ride.Vigil
import ScooterFleet.Proofs.Ride.Patience
import ScooterFleet.Proofs.Link.Pairing
import ScooterFleet.Proofs.Link.Standstill
import ScooterFleet.Proofs.Motion.Course
import ScooterFleet.Proofs.Motion.Arrival
import ScooterFleet.Proofs.Device.Resumption
import ScooterFleet.Proofs.Decimal.Finite
import ScooterFleet.Proofs.Text.Uuid
import ScooterFleet.Proofs.Json.Whole
import ScooterFleet.Proofs.Record.Carried
import ScooterFleet.Proofs.Json.Tagged
import ScooterFleet.Proofs.Wire.Verdict
import ScooterFleet.Proofs.Wire.Frames
import ScooterFleet.Proofs.Hub.Indifference
import ScooterFleet.Proofs.Bus.Mirror

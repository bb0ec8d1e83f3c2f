import GreybusApba.Driver.Basic
import GreybusApba.Sequencer.Seq
import GreybusApba.Driver.State
import GreybusApba.Power.OnOff
import GreybusApba.Log.Fifo
import GreybusApba.Protocol.Message
import GreybusApba.Sysfs.Requests
import GreybusApba.Flash.Pipeline
import GreybusApba.Flash.Compare
import GreybusApba.Flash.Store
import GreybusApba.Controller.Probe
import GreybusApba.Controller.Machine
import GreybusApba.Controller.Power
import GreybusApba.Controller.Refs
import GreybusApba.Controller.Held
import GreybusApba.Controller.Frame
import GreybusApba.Controller.Guards
import GreybusApba.Controller.Balances
import GreybusApba.Log.Stream
import GreybusApba.Sysfs.Completion
import GreybusApba.Audio.SendData
import GreybusApba.Audio.Config

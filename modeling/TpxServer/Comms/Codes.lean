import TpxServer.Common

/-!
# Command codes

The enumerations have `std::uint32_t` as underlying type and are made by casts from words off the
wire, so every word is a value of them. `HANDLER_MAP` gives the number of payload words of the
response to a SPIDR command, `COMMAND_MAP` the way a client command is handled. SPIDR commands that
neither map mentions are left out.
-/

namespace TpxServer.Comms

/-! ## Client commands -/

structure ServerCommand where
  code : BitVec 32
  deriving Repr, DecidableEq

namespace ServerCommand

def NOP : ServerCommand := ⟨0⟩
def GET_SOFTWARE_VERSION : ServerCommand := ⟨1⟩
def GET_FIRMWARE_VERSION : ServerCommand := ⟨2⟩
def GET_CAMERA_ID : ServerCommand := ⟨3⟩
def GET_DEVICE_IDS : ServerCommand := ⟨4⟩
def GET_LOCAL_TEMP : ServerCommand := ⟨5⟩
def GET_REMOTE_TEMP : ServerCommand := ⟨6⟩
def GET_FPGA_TEMP : ServerCommand := ⟨7⟩
def GET_FAN_SPEED : ServerCommand := ⟨8⟩
def GET_PRESSURE : ServerCommand := ⟨9⟩
def GET_HUMIDITY : ServerCommand := ⟨10⟩
def GET_SPIDR_ADC : ServerCommand := ⟨11⟩
def SET_BIAS_VOLTAGE : ServerCommand := ⟨12⟩
def SET_BIAS_SUPPLY_ENABLED : ServerCommand := ⟨13⟩
def GET_DEVICE_PORT : ServerCommand := ⟨14⟩
def GET_SERVER_PORT : ServerCommand := ⟨15⟩
def SET_SERVER_PORT : ServerCommand := ⟨16⟩
def SET_TOA_DECODERS_ENABLED : ServerCommand := ⟨17⟩
def RESTART_TIMERS : ServerCommand := ⟨18⟩
def RESET_TIMERS : ServerCommand := ⟨19⟩
def RESET_PIXELS : ServerCommand := ⟨20⟩
def GET_SPIDR_REGISTER : ServerCommand := ⟨21⟩
def SET_SPIDR_REGISTER : ServerCommand := ⟨22⟩
def GET_PLL_CONFIG : ServerCommand := ⟨23⟩
def SET_PLL_CONFIG : ServerCommand := ⟨24⟩
def GET_HEADER_FILTER : ServerCommand := ⟨25⟩
def SET_HEADER_FILTER : ServerCommand := ⟨26⟩
def GET_GEN_CONFIG : ServerCommand := ⟨27⟩
def SET_GEN_CONFIG : ServerCommand := ⟨28⟩
def GET_PERIOD_PHASE : ServerCommand := ⟨29⟩
def SET_PERIOD_PHASE : ServerCommand := ⟨30⟩
def GET_TRIGGER_CONF : ServerCommand := ⟨31⟩
def SET_TRIGGER_CONF : ServerCommand := ⟨32⟩
def GET_DAC : ServerCommand := ⟨33⟩
def SET_DAC : ServerCommand := ⟨34⟩
def START_READOUT : ServerCommand := ⟨35⟩
def STOP_READOUT : ServerCommand := ⟨36⟩
def AUTOTRIG_START : ServerCommand := ⟨37⟩
def AUTOTRIG_STOP : ServerCommand := ⟨38⟩
def GET_PIXEL_CONFIG : ServerCommand := ⟨39⟩
def SET_PIXEL_CONFIG : ServerCommand := ⟨40⟩
def RESET_MODULE : ServerCommand := ⟨41⟩
def GET_READOUT_SPEED : ServerCommand := ⟨42⟩
def SET_SENSEDAC : ServerCommand := ⟨48⟩
def SET_UDP_PORT : ServerCommand := ⟨500⟩
def SET_RAW_TPX3_PATH : ServerCommand := ⟨501⟩
def GET_RAW_DATA_SERVER_PATH : ServerCommand := ⟨502⟩
def RESET_TOA_ROLLOVER_COUNTER : ServerCommand := ⟨503⟩
def GET_CLUSTER_SERVER_PATH : ServerCommand := ⟨600⟩
def SET_CLUSTER_INPUT_SERVER : ServerCommand := ⟨601⟩
def SET_CLUSTER_PARAMETERS : ServerCommand := ⟨602⟩
def FLUSH_CLUSTERS : ServerCommand := ⟨603⟩
def SET_CLUSTER_PATH : ServerCommand := ⟨604⟩
def GET_HISTOGRAM_SERVER_PATH : ServerCommand := ⟨700⟩
def SET_HISTOGRAM_INPUT_SERVER : ServerCommand := ⟨701⟩
def SET_HISTOGRAM_OUTPUT_PERIOD : ServerCommand := ⟨702⟩
def INVALID_COMMAND_DATA : ServerCommand := ⟨993⟩
def CANT_OPEN_FILE : ServerCommand := ⟨994⟩
def THREAD_NOT_CONNECTED : ServerCommand := ⟨995⟩
def THREAD_NOT_STARTED : ServerCommand := ⟨996⟩
def SERVER_RESET : ServerCommand := ⟨997⟩
def ERROR_OCCURED : ServerCommand := ⟨998⟩
def UNKNOWN_COMMAND : ServerCommand := ⟨999⟩

/-- The codes that report an error. -/
def ERROR_CODES : List ServerCommand :=
  [INVALID_COMMAND_DATA, CANT_OPEN_FILE, THREAD_NOT_CONNECTED, THREAD_NOT_STARTED, SERVER_RESET,
    ERROR_OCCURED, UNKNOWN_COMMAND]

end ServerCommand

/-! ## SPIDR commands -/

structure TpxCommand where
  code : BitVec 32
  deriving Repr, DecidableEq

namespace TpxCommand

def CMD_NOP : TpxCommand := ⟨0x000⟩
def CMD_GET_SOFTWVERSION : TpxCommand := ⟨0x901⟩
def CMD_GET_FIRMWVERSION : TpxCommand := ⟨0x902⟩
def CMD_GET_HEADERFILTER : TpxCommand := ⟨0x905⟩
def CMD_SET_HEADERFILTER : TpxCommand := ⟨0x906⟩
def CMD_RESET_MODULE : TpxCommand := ⟨0x907⟩
def CMD_GET_CHIPBOARDID : TpxCommand := ⟨0x90F⟩
def CMD_GET_DEVICEIDS : TpxCommand := ⟨0x111⟩
def CMD_GET_DEVICEPORT : TpxCommand := ⟨0x116⟩
def CMD_GET_SERVERPORT : TpxCommand := ⟨0x117⟩
def CMD_SET_SERVERPORT : TpxCommand := ⟨0x119⟩
def CMD_GET_DAC : TpxCommand := ⟨0x11A⟩
def CMD_SET_DAC : TpxCommand := ⟨0x11B⟩
def CMD_SET_PIXCONF : TpxCommand := ⟨0x22A⟩
def CMD_GET_PIXCONF : TpxCommand := ⟨0x22D⟩
def CMD_RESET_PIXELS : TpxCommand := ⟨0x22E⟩
def CMD_GET_TPPERIODPHASE : TpxCommand := ⟨0x330⟩
def CMD_SET_TPPERIODPHASE : TpxCommand := ⟨0x331⟩
def CMD_GET_GENCONFIG : TpxCommand := ⟨0x334⟩
def CMD_SET_GENCONFIG : TpxCommand := ⟨0x335⟩
def CMD_GET_PLLCONFIG : TpxCommand := ⟨0x336⟩
def CMD_SET_PLLCONFIG : TpxCommand := ⟨0x337⟩
def CMD_SET_SENSEDAC : TpxCommand := ⟨0x338⟩
def CMD_GET_TRIGCONFIG : TpxCommand := ⟨0x440⟩
def CMD_SET_TRIGCONFIG : TpxCommand := ⟨0x441⟩
def CMD_AUTOTRIG_START : TpxCommand := ⟨0x442⟩
def CMD_AUTOTRIG_STOP : TpxCommand := ⟨0x443⟩
def CMD_DDRIVEN_READOUT : TpxCommand := ⟨0x446⟩
def CMD_PAUSE_READOUT : TpxCommand := ⟨0x447⟩
def CMD_GET_REMOTETEMP : TpxCommand := ⟨0x549⟩
def CMD_GET_LOCALTEMP : TpxCommand := ⟨0x54A⟩
def CMD_GET_SPIDR_ADC : TpxCommand := ⟨0x54E⟩
def CMD_RESTART_TIMERS : TpxCommand := ⟨0x550⟩
def CMD_RESET_TIMER : TpxCommand := ⟨0x551⟩
def CMD_BIAS_SUPPLY_ENA : TpxCommand := ⟨0x55F⟩
def CMD_SET_BIAS_ADJUST : TpxCommand := ⟨0x560⟩
def CMD_DECODERS_ENA : TpxCommand := ⟨0x561⟩
def CMD_GET_READOUTSPEED : TpxCommand := ⟨0x564⟩
def CMD_GET_FPGATEMP : TpxCommand := ⟨0x568⟩
def CMD_GET_FANSPEED : TpxCommand := ⟨0x569⟩
def CMD_GET_HUMIDITY : TpxCommand := ⟨0x56E⟩
def CMD_GET_PRESSURE : TpxCommand := ⟨0x56F⟩
def CMD_GET_SPIDRREG : TpxCommand := ⟨0x783⟩
def CMD_SET_SPIDRREG : TpxCommand := ⟨0x784⟩

/-- Set in the command identifier of a reply. -/
def CMD_REPLY : TpxCommand := ⟨0x00010000⟩

/-- Set in the command identifier of a command to which no reply is expected. -/
def CMD_NOREPLY : TpxCommand := ⟨0x00080000⟩

end TpxCommand

/-! ## Maps -/

theorem mem_of_lookup {α β : Type*} [BEq α] [LawfulBEq α] {l : List (α × β)} {a : α} {b : β}
    (h : l.lookup a = some b) : (a, b) ∈ l := by
  obtain ⟨l₁, l₂, hsplit, -⟩ := List.lookup_eq_some_iff.mp h
  rw [hsplit]
  exact List.mem_append_right _ List.mem_cons_self

/-- `genericHandler<sz>` for each SPIDR command, given by `sz`. -/
def HANDLER_MAP : List (TpxCommand × ℕ) :=
  [(.CMD_NOP, 1),
    (.CMD_GET_SOFTWVERSION, 1),
    (.CMD_GET_FIRMWVERSION, 1),
    (.CMD_GET_CHIPBOARDID, 1),
    (.CMD_GET_DEVICEIDS, 4),
    (.CMD_GET_LOCALTEMP, 1),
    (.CMD_GET_REMOTETEMP, 1),
    (.CMD_GET_FPGATEMP, 1),
    (.CMD_GET_FANSPEED, 1),
    (.CMD_GET_PRESSURE, 1),
    (.CMD_GET_HUMIDITY, 1),
    (.CMD_GET_SPIDR_ADC, 1),
    (.CMD_SET_BIAS_ADJUST, 1),
    (.CMD_BIAS_SUPPLY_ENA, 1),
    (.CMD_GET_DEVICEPORT, 1),
    (.CMD_GET_SERVERPORT, 1),
    (.CMD_SET_SERVERPORT, 1),
    (.CMD_DECODERS_ENA, 1),
    (.CMD_RESTART_TIMERS, 1),
    (.CMD_RESET_TIMER, 1),
    (.CMD_RESET_PIXELS, 1),
    (.CMD_GET_SPIDRREG, 2),
    (.CMD_SET_SPIDRREG, 1),
    (.CMD_GET_PLLCONFIG, 1),
    (.CMD_SET_PLLCONFIG, 1),
    (.CMD_GET_HEADERFILTER, 1),
    (.CMD_SET_HEADERFILTER, 1),
    (.CMD_GET_GENCONFIG, 1),
    (.CMD_SET_GENCONFIG, 1),
    (.CMD_GET_TPPERIODPHASE, 1),
    (.CMD_SET_TPPERIODPHASE, 1),
    (.CMD_GET_TRIGCONFIG, 5),
    (.CMD_SET_TRIGCONFIG, 1),
    (.CMD_GET_DAC, 1),
    (.CMD_SET_DAC, 1),
    (.CMD_DDRIVEN_READOUT, 1),
    (.CMD_PAUSE_READOUT, 1),
    (.CMD_AUTOTRIG_START, 1),
    (.CMD_AUTOTRIG_STOP, 1),
    (.CMD_GET_PIXCONF, 65),
    (.CMD_SET_PIXCONF, 1),
    (.CMD_RESET_MODULE, 1),
    (.CMD_GET_READOUTSPEED, 1),
    (.CMD_SET_SENSEDAC, 1)]

/-- A handler of `PythonConnectionManager`. -/
inductive ClientHandler where
  | genericForward (sz : ℕ) (cmd : TpxCommand)
  | sendPixelConfigData
  | bindUdpPort
  deriving Repr, DecidableEq

def COMMAND_MAP : List (ServerCommand × ClientHandler) :=
  [(.NOP, .genericForward 0 .CMD_NOP),
    (.GET_SOFTWARE_VERSION, .genericForward 0 .CMD_GET_SOFTWVERSION),
    (.GET_FIRMWARE_VERSION, .genericForward 0 .CMD_GET_FIRMWVERSION),
    (.GET_CAMERA_ID, .genericForward 0 .CMD_GET_CHIPBOARDID),
    (.GET_DEVICE_IDS, .genericForward 0 .CMD_GET_DEVICEIDS),
    (.GET_LOCAL_TEMP, .genericForward 0 .CMD_GET_LOCALTEMP),
    (.GET_REMOTE_TEMP, .genericForward 0 .CMD_GET_REMOTETEMP),
    (.GET_FPGA_TEMP, .genericForward 0 .CMD_GET_FPGATEMP),
    (.GET_FAN_SPEED, .genericForward 0 .CMD_GET_FANSPEED),
    (.GET_PRESSURE, .genericForward 0 .CMD_GET_PRESSURE),
    (.GET_HUMIDITY, .genericForward 0 .CMD_GET_HUMIDITY),
    (.GET_SPIDR_ADC, .genericForward 1 .CMD_GET_SPIDR_ADC),
    (.SET_BIAS_VOLTAGE, .genericForward 1 .CMD_SET_BIAS_ADJUST),
    (.SET_BIAS_SUPPLY_ENABLED, .genericForward 1 .CMD_BIAS_SUPPLY_ENA),
    (.GET_DEVICE_PORT, .genericForward 0 .CMD_GET_DEVICEPORT),
    (.GET_SERVER_PORT, .genericForward 0 .CMD_GET_SERVERPORT),
    (.SET_SERVER_PORT, .genericForward 1 .CMD_SET_SERVERPORT),
    (.SET_TOA_DECODERS_ENABLED, .genericForward 1 .CMD_DECODERS_ENA),
    (.RESTART_TIMERS, .genericForward 0 .CMD_RESTART_TIMERS),
    (.RESET_TIMERS, .genericForward 0 .CMD_RESET_TIMER),
    (.RESET_PIXELS, .genericForward 0 .CMD_RESET_PIXELS),
    (.GET_SPIDR_REGISTER, .genericForward 1 .CMD_GET_SPIDRREG),
    (.SET_SPIDR_REGISTER, .genericForward 2 .CMD_SET_SPIDRREG),
    (.GET_PLL_CONFIG, .genericForward 0 .CMD_GET_PLLCONFIG),
    (.SET_PLL_CONFIG, .genericForward 1 .CMD_SET_PLLCONFIG),
    (.GET_HEADER_FILTER, .genericForward 0 .CMD_GET_HEADERFILTER),
    (.SET_HEADER_FILTER, .genericForward 1 .CMD_SET_HEADERFILTER),
    (.GET_GEN_CONFIG, .genericForward 0 .CMD_GET_GENCONFIG),
    (.SET_GEN_CONFIG, .genericForward 1 .CMD_SET_GENCONFIG),
    (.GET_PERIOD_PHASE, .genericForward 0 .CMD_GET_TPPERIODPHASE),
    (.SET_PERIOD_PHASE, .genericForward 1 .CMD_SET_TPPERIODPHASE),
    (.GET_TRIGGER_CONF, .genericForward 0 .CMD_GET_TRIGCONFIG),
    (.SET_TRIGGER_CONF, .genericForward 5 .CMD_SET_TRIGCONFIG),
    (.GET_DAC, .genericForward 1 .CMD_GET_DAC),
    (.SET_DAC, .genericForward 1 .CMD_SET_DAC),
    (.START_READOUT, .genericForward 0 .CMD_DDRIVEN_READOUT),
    (.STOP_READOUT, .genericForward 0 .CMD_PAUSE_READOUT),
    (.AUTOTRIG_START, .genericForward 0 .CMD_AUTOTRIG_START),
    (.AUTOTRIG_STOP, .genericForward 0 .CMD_AUTOTRIG_STOP),
    (.GET_PIXEL_CONFIG, .genericForward 1 .CMD_GET_PIXCONF),
    (.SET_PIXEL_CONFIG, .sendPixelConfigData),
    (.RESET_MODULE, .genericForward 1 .CMD_RESET_MODULE),
    (.GET_READOUT_SPEED, .genericForward 0 .CMD_GET_READOUTSPEED),
    (.SET_SENSEDAC, .genericForward 1 .CMD_SET_SENSEDAC),
    (.SET_UDP_PORT, .bindUdpPort)]

def UDP_THREAD_FORWARD_COMMANDS : List ServerCommand :=
  [.SET_RAW_TPX3_PATH, .GET_RAW_DATA_SERVER_PATH, .RESET_TOA_ROLLOVER_COUNTER]

def CLUSTER_THREAD_FORWARD_COMMANDS : List ServerCommand :=
  [.GET_CLUSTER_SERVER_PATH, .SET_CLUSTER_INPUT_SERVER, .SET_CLUSTER_PARAMETERS, .FLUSH_CLUSTERS,
    .SET_CLUSTER_PATH]

def HISTOGRAM_THREAD_FORWARD_COMMANDS : List ServerCommand :=
  [.GET_HISTOGRAM_SERVER_PATH, .SET_HISTOGRAM_INPUT_SERVER, .SET_HISTOGRAM_OUTPUT_PERIOD]

end TpxServer.Comms

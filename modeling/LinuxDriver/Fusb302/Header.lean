/-!
# The constants and macros of `fusb302.h`

Register fields, message types, timeouts and the field accessors of PD and VDM
headers, under the names of the header file.
-/

namespace Fusb302

/-! ## Registers -/

/-- The registers the driver reads or writes by name. -/
inductive Reg
  | SWITCHES0
  | SWITCHES1
  | MEASURE
  | CONTROL0
  | CONTROL1
  | CONTROL2
  | CONTROL3
  | MASK
  | POWER
  | RESET
  | MASKA
  | MASKB
  deriving DecidableEq

/-- Eight bits. -/
abbrev Byte := BitVec 8

abbrev SWITCHES0_PDWN1 : Byte := 0x01#8
abbrev SWITCHES0_PDWN2 : Byte := 0x02#8
abbrev SWITCHES0_MEAS_CC1 : Byte := 0x04#8
abbrev SWITCHES0_MEAS_CC2 : Byte := 0x08#8
abbrev SWITCHES0_VCONN_CC1 : Byte := 0x10#8
abbrev SWITCHES0_VCONN_CC2 : Byte := 0x20#8
abbrev SWITCHES0_PU_EN1 : Byte := 0x40#8
abbrev SWITCHES0_PU_EN2 : Byte := 0x80#8

abbrev SWITCHES1_TXCC1 : Byte := 0x01#8
abbrev SWITCHES1_TXCC2 : Byte := 0x02#8
abbrev SWITCHES1_AUTO_CRC : Byte := 0x04#8
abbrev SWITCHES1_DATAROLE : Byte := 0x10#8
abbrev SWITCHES1_SPECREV : Byte := 0x60#8
abbrev SWITCHES1_POWERROLE : Byte := 0x80#8

abbrev CONTROL0_HOST_CUR : Byte := 0x0c#8
abbrev CONTROL0_HOST_CUR_USB : Byte := 0x04#8
abbrev CONTROL0_HOST_CUR_1A5 : Byte := 0x08#8
abbrev CONTROL0_HOST_CUR_3A0 : Byte := 0x0c#8
abbrev CONTROL0_INT_MASK : Byte := 0x20#8

abbrev CONTROL1_RX_FLUSH : Byte := 0x04#8

abbrev CONTROL2_TOGGLE : Byte := 0x01#8
abbrev CONTROL2_MODE : Byte := 0x06#8
abbrev CONTROL2_MODE_DFP : Byte := 0x06#8
abbrev CONTROL2_MODE_UFP : Byte := 0x04#8
abbrev CONTROL2_MODE_DRP : Byte := 0x02#8
abbrev CONTROL2_TOG_RD_ONLY : Byte := 0x20#8

abbrev CONTROL3_AUTO_RETRY : Byte := 0x01#8
abbrev CONTROL3_N_RETRIES : Byte := 0x06#8

abbrev MASK_M_COLLISION : Byte := 0x02#8
abbrev MASK_M_ALERT : Byte := 0x08#8
abbrev MASK_M_COMP_CHNG : Byte := 0x20#8
abbrev MASK_M_VBUSOK : Byte := 0x80#8

abbrev MASKA_M_HARDRST : Byte := 0x01#8
abbrev MASKA_M_TXSENT : Byte := 0x04#8
abbrev MASKA_M_HARDSENT : Byte := 0x08#8
abbrev MASKA_M_RETRYFAIL : Byte := 0x10#8
abbrev MASKA_M_TOGDONE : Byte := 0x40#8

abbrev MASKB_M_GCRCSEND : Byte := 0x01#8

abbrev CC_STATE_TOGSS_CC1 : Byte := 0x01#8
abbrev CC_STATE_TOGSS_CC2 : Byte := 0x02#8
abbrev CC_STATE_TOGSS_IS_UFP : Byte := 0x04#8

abbrev INTERRUPT_COMP_CHNG : Byte := 0x20#8
abbrev INTERRUPT_VBUSOK : Byte := 0x80#8

abbrev INTERRUPTA_HARDRST : Byte := 0x01#8
abbrev INTERRUPTA_TXSENT : Byte := 0x04#8
abbrev INTERRUPTA_HARDSENT : Byte := 0x08#8
abbrev INTERRUPTA_RETRYFAIL : Byte := 0x10#8
abbrev INTERRUPTA_TOGDONE : Byte := 0x40#8

abbrev INTERRUPTB_GCRCSENT : Byte := 0x01#8

abbrev STATUS0_BC_LVL : Byte := 0x03#8
abbrev STATUS0_COMP : Byte := 0x20#8
abbrev STATUS0_VBUSOK : Byte := 0x80#8

/-- A test `r & m` of the source. -/
def bit (r m : Byte) : Bool := r &&& m != 0#8

/-! ## Tokens of the transmit FIFO -/

abbrev FUSB_TKN_TXON : Byte := 0xa1#8
abbrev FUSB_TKN_SYNC1 : Byte := 0x12#8
abbrev FUSB_TKN_SYNC2 : Byte := 0x13#8
abbrev FUSB_TKN_PACKSYM : Byte := 0x80#8
abbrev FUSB_TKN_JAMCRC : Byte := 0xff#8
abbrev FUSB_TKN_EOP : Byte := 0x14#8
abbrev FUSB_TKN_TXOFF : Byte := 0xfe#8

/-! ## Message types -/

abbrev CMT_GOODCRC : Nat := 1
abbrev CMT_ACCEPT : Nat := 3
abbrev CMT_REJECT : Nat := 4
abbrev CMT_PS_RDY : Nat := 6
abbrev CMT_GETSINKCAP : Nat := 8
abbrev CMT_DR_SWAP : Nat := 9
abbrev CMT_PR_SWAP : Nat := 10
abbrev CMT_VCONN_SWAP : Nat := 11
abbrev CMT_WAIT : Nat := 12
abbrev CMT_SOFTRESET : Nat := 13

abbrev DMT_SOURCECAPABILITIES : Nat := 1
abbrev DMT_REQUEST : Nat := 2
abbrev DMT_SINKCAPABILITIES : Nat := 4
abbrev DMT_VENDERDEFINED : Nat := 15

abbrev VDM_DISCOVERY_ID : Nat := 0x01
abbrev VDM_DISCOVERY_SVIDS : Nat := 0x02
abbrev VDM_DISCOVERY_MODES : Nat := 0x03
abbrev VDM_ENTER_MODE : Nat := 0x04
abbrev VDM_EXIT_MODE : Nat := 0x05
abbrev VDM_ATTENTION : Nat := 0x06
abbrev VDM_DP_STATUS_UPDATE : Nat := 0x10
abbrev VDM_DP_CONFIG : Nat := 0x11

abbrev VDM_TYPE_INIT : Nat := 0
abbrev VDM_TYPE_ACK : Nat := 1
abbrev VDM_TYPE_NACK : Nat := 2

/-! ## Counts and timeouts -/

abbrev N_DEBOUNCE_CNT : Nat := 33
abbrev N_CAPS_COUNT : Nat := 50
abbrev N_HARDRESET_COUNT : Nat := 0

abbrev T_NO_RESPONSE : Nat := 5000
abbrev T_SRC_RECOVER : Nat := 830
abbrev T_TYPEC_SEND_SOURCECAP : Nat := 100
abbrev T_SENDER_RESPONSE : Nat := 30
abbrev T_SRC_TRANSITION : Nat := 30
abbrev T_TYPEC_SINK_WAIT_CAP : Nat := 500
abbrev T_PS_TRANSITION : Nat := 500
abbrev T_BMC_TIMEOUT : Nat := 5
abbrev T_PS_HARD_RESET_MAX : Nat := 35
abbrev T_SAFE_0V : Nat := 650
abbrev T_SRC_TURN_ON : Nat := 275
abbrev T_SRC_RECOVER_MAX : Nat := 1000
abbrev T_PD_SOURCE_OFF : Nat := 920
abbrev T_PD_SOURCE_ON : Nat := 480
abbrev T_PD_SWAP_SOURCE_START : Nat := 20
abbrev T_PD_VCONN_SRC_ON : Nat := 100
abbrev T_PD_TRY_DRP : Nat := 75
abbrev T_DISABLED : Nat := 0xffff

/-! ## Fields of headers and objects -/

/-- The number of data objects. -/
def PD_HEADER_CNT (header : BitVec 16) : Nat := ((header >>> 12) &&& 7#16).toNat

/-- The message type. -/
def PD_HEADER_TYPE (header : BitVec 16) : Nat := (header &&& 0xf#16).toNat

/-- The message number. -/
def PD_HEADER_ID (header : BitVec 16) : Nat := ((header >>> 9) &&& 7#16).toNat

/-- A message of this type without data objects. -/
def PACKET_IS_CONTROL_MSG (header : BitVec 16) (type : Nat) : Bool :=
  PD_HEADER_CNT header == 0 && PD_HEADER_TYPE header == type

/-- A message of this type with data objects. -/
def PACKET_IS_DATA_MSG (header : BitVec 16) (type : Nat) : Bool :=
  PD_HEADER_CNT header != 0 && PD_HEADER_TYPE header == type

/-- A control message is no data message. -/
theorem not_data_of_control {head : BitVec 16} {type type' : Nat} (h : PACKET_IS_CONTROL_MSG head type = true) :
    PACKET_IS_DATA_MSG head type' = false := by
  simp only [PACKET_IS_CONTROL_MSG, Bool.and_eq_true, beq_iff_eq] at h
  simp [PACKET_IS_DATA_MSG, h.1]

/-- Request, ACK, NAK or BUSY. -/
def GET_VDMHEAD_CMD_TYPE (head : BitVec 32) : Nat := ((head &&& 0xc0#32) >>> 6).toNat

/-- The command of a vendor message. -/
def GET_VDMHEAD_CMD (head : BitVec 32) : Nat := (head &&& 0x1f#32).toNat

/-- The message is a structured one. -/
def GET_VDMHEAD_STRUCT_TYPE (head : BitVec 32) : Nat := ((head &&& 0x8000#32) >>> 15).toNat

/-- The low byte of a DisplayPort status. -/
def GET_DP_STATUS (status : BitVec 32) : BitVec 32 := status &&& 0xff#32

/-- Fixed, battery or variable supply. -/
def CAP_POWER_TYPE (pdo : BitVec 32) : Nat := ((pdo >>> 30) &&& 3#32).toNat

/-- In units of 50 mV. -/
def CAP_FPDO_VOLTAGE (pdo : BitVec 32) : BitVec 32 := (pdo >>> 10) &&& 0x3ff#32

/-- The highest, in units of 50 mV. -/
def CAP_VPDO_VOLTAGE (pdo : BitVec 32) : BitVec 32 := (pdo >>> 20) &&& 0x3ff#32

/-- In units of 10 mA. -/
def CAP_FPDO_CURRENT (pdo : BitVec 32) : BitVec 32 := (pdo >>> 0) &&& 0x3ff#32

/-- In units of 10 mA. -/
def CAP_VPDO_CURRENT (pdo : BitVec 32) : BitVec 32 := (pdo >>> 0) &&& 0x3ff#32

/-- The pin assignments of a mode, by the kind of its receptacle. -/
def PD_DP_PIN_CAPS (x : BitVec 32) : BitVec 32 :=
  if (x >>> 6) &&& 1#32 ≠ 0#32 then (x >>> 16) &&& 0x3f#32 else (x >>> 8) &&& 0x3f#32

/-- The mode supports the second generation of signalling. -/
def PD_DP_SIGNAL_GEN2 (x : BitVec 32) : BitVec 32 := (x >>> 3) &&& 1#32

/-- The partner prefers multiple functions. -/
def PD_VDO_DPSTS_MF_PREF (x : BitVec 32) : BitVec 32 := (x >>> 4) &&& 1#32

abbrev MODE_DP_PIN_MF_MASK : BitVec 32 := 0x2a#32
abbrev MODE_DP_PIN_BR2_MASK : BitVec 32 := 0x03#32
abbrev MODE_DP_PIN_DP_MASK : BitVec 32 := 0x3c#32

/-- No object count exceeds the seven words of `rec_load`. -/
theorem cnt_le_seven (header : BitVec 16) : PD_HEADER_CNT header ≤ 7 := by
  rw [PD_HEADER_CNT, BitVec.toNat_and]
  exact Nat.and_le_right

end Fusb302

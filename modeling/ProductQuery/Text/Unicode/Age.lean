import ProductQuery.Text.Partition
/-!
# Text.Unicode.Age — the version that first assigned a code point

The table lists runs of code points of one version, from zero upwards.
-/
namespace ProductQuery
namespace Age

/-- Runs of code points: a length in base 36 and a version, or `U` for none. -/
def runs : String := "
  dyV1.1 4V3.0 uV1.1 8V3.0 1V3.2 1V4.0 iV3.0 3V4.0 bV4.1 eV5.0 2hV1.1 5V3.0 2V4.0 1bV1.1 1V3.0 aV1.1 5V3.0
  hV4.0 1yV1.1 9V3.0 1V3.2 8V4.0 5V4.1 3V4.0 2V1.1 1V3.0 dV3.2 4V5.1 2V1.1 2V5.1 2U 1V1.1 3V5.0 1V1.1 1V7.0 4U
  7V1.1 1U 1V1.1 1U kV1.1 1U 18V1.1 1V5.1 7V1.1 1V3.0 2V3.2 1V1.1 1V3.0 1V1.1 1V3.0 1V1.1 1V3.0 1V1.1 1V3.0
  iV1.1 2V3.1 1V3.2 5V4.0 4V4.1 1V3.0 cV1.1 1V3.0 1uV1.1 1V3.0 cV1.1 1V3.0 15V1.1 1V5.1 2V3.0 2V3.2 4V3.0
  1hV1.1 2V3.2 2V1.1 2V3.2 2V1.1 2V3.2 1V5.0 sV1.1 2V3.0 8V1.1 2V4.1 2V1.1 6V5.0 gV3.2 4V5.0 gV5.1 2V5.2 2V6.0
  8V7.0 1U 12V1.1 2U 7V1.1 1V11.0 13V1.1 1V11.0 1V1.1 1V3.0 2U 2V7.0 1V6.1 1U hV2.0 1V4.1 dV2.0 aV1.1 1V5.0
  9V1.1 1V2.0 3V4.1 8U rV1.1 4U 1V11.0 5V1.1 bU 4V4.0 1V6.1 1V7.0 5V5.1 1V4.1 1V1.1 9V4.0 5V5.1 1V1.1 1V6.3
  1V14.0 1V4.1 1V1.1 1V6.0 qV1.1 5V5.1 jV1.1 3V3.0 3V4.0 6V4.1 1V6.0 eV1.1 2V3.2 20V1.1 2V3.0 5V1.1 1V3.0
  fV1.1 1V3.0 uV1.1 2V4.0 aV1.1 5V3.0 1V4.0 eV3.0 1U uV3.0 3V4.0 rV3.0 2U 3V4.0 uV4.1 iV5.1 1dV3.0 1V3.2 eU
  1nV5.0 2U 3V11.0 1aV5.2 2U fV5.2 1U sV6.0 2U 1V6.0 1U bV10.0 5U vV14.0 1U 2V14.0 6U 8V14.0 1V6.1 1V7.0 bV6.1
  6V7.0 2V8.0 1V14.0 8V9.0 aV13.0 bV14.0 1V11.0 fV9.0 1V8.0 rV6.1 1V7.0 1V5.2 3V1.1 1V4.0 1hV1.1 2V6.0 iV1.1
  1V5.2 1V6.0 5V1.1 1V5.2 2V6.0 pV1.1 2V5.1 5V6.0 1V7.0 2V5.2 2V5.0 1V4.1 2V5.0 1V7.0 3V1.1 1U 8V1.1 2U 2V1.1
  2U mV1.1 1U 7V1.1 1U 1V1.1 3U 4V1.1 2U 1V1.1 1V4.0 7V1.1 2U 2V1.1 2U 3V1.1 1V4.1 8U 1V1.1 4U 2V1.1 1U 5V1.1
  2U lV1.1 1V5.2 2V10.0 1V11.0 2U 1V4.0 1V1.1 1V4.0 1U 6V1.1 4U 2V1.1 2U mV1.1 1U 7V1.1 1U 2V1.1 1U 2V1.1 1U
  2V1.1 2U 1V1.1 1U 5V1.1 4U 2V1.1 2U 3V1.1 3U 1V5.1 7U 4V1.1 1U 1V1.1 7U fV1.1 1V5.1 1V11.0 aU 3V1.1 1U 7V1.1
  1V4.0 1V1.1 1U 3V1.1 1U mV1.1 1U 7V1.1 1U 2V1.1 1U 5V1.1 2U aV1.1 1U 3V1.1 1U 3V1.1 2U 1V1.1 fU 1V1.1 3V4.0
  2U aV1.1 1V6.1 1V4.0 7U 1V8.0 6V10.0 1U 3V1.1 1U 8V1.1 2U 2V1.1 2U mV1.1 1U 7V1.1 1U 2V1.1 1U 1V4.0 4V1.1 2U
  8V1.1 1V5.1 2U 2V1.1 2U 3V1.1 7U 1V13.0 2V1.1 4U 2V1.1 1U 3V1.1 2V5.1 2U bV1.1 1V4.0 6V6.0 aU 2V1.1 1U 6V1.1
  3U 3V1.1 1U 4V1.1 3U 2V1.1 1U 1V1.1 1U 2V1.1 3U 2V1.1 3U 3V1.1 3U 8V1.1 1V4.1 3V1.1 4U 5V1.1 3U 3V1.1 1U
  4V1.1 2U 1V5.1 6U 1V1.1 eU 1V4.1 cV1.1 8V4.0 5U 1V7.0 3V1.1 1V11.0 8V1.1 1U 3V1.1 1U nV1.1 1U aV1.1 1V7.0
  5V1.1 2U 1V14.0 1V5.1 7V1.1 1U 3V1.1 1U 4V1.1 7U 2V1.1 1U 2V5.1 1V8.0 2U 1V14.0 2U 2V1.1 2V5.1 2U aV1.1 7U
  1V12.0 8V5.1 1V9.0 1V7.0 2V1.1 1V11.0 8V1.1 1U 3V1.1 1U nV1.1 1U aV1.1 1U 5V1.1 2U 2V4.0 7V1.1 1U 3V1.1 1U
  4V1.1 7U 2V1.1 6U 1V14.0 1V1.1 1U 2V1.1 2V5.0 2U aV1.1 1U 2V5.0 1V15.0 cU 1V10.0 1V7.0 2V1.1 1V13.0 8V1.1 1U
  3V1.1 1U nV1.1 1V6.0 gV1.1 1V6.0 2V10.0 1V5.1 6V1.1 1V5.1 1U 3V1.1 1U 4V1.1 1V6.0 1V9.0 4U 3V9.0 1V1.1 7V9.0
  1V8.0 2V1.1 2V5.1 2U aV1.1 6V5.1 3V9.0 7V5.1 1U 1V13.0 2V3.0 1U iV3.0 3U oV3.0 1U 9V3.0 1U 1V3.0 2U 7V3.0 3U
  1V3.0 4U 6V3.0 1U 1V3.0 1U 8V3.0 6U aV7.0 2U 3V3.0 cU 1mV1.1 4U tV1.1 11U 2V1.1 1U 1V1.1 1U 1V12.0 2V1.1
  1V12.0 1V1.1 1U 1V12.0 1V1.1 6V12.0 4V1.1 1V12.0 7V1.1 1V12.0 3V1.1 1U 1V1.1 1U 1V1.1 2V12.0 2V1.1 1V12.0
  dV1.1 1V12.0 3V1.1 2U 5V1.1 1U 1V1.1 1U 6V1.1 1V15.0 1U aV1.1 2U 2V1.1 2V6.1 wU 20V2.0 1U xV2.0 1V3.0 2V5.1
  4U rV2.0 4V6.0 6V2.0 1V3.0 1V2.0 1U lV2.0 3V3.0 7V2.0 1V3.0 1V2.0 3V3.0 1U fV3.0 1U 1V5.1 1V3.0 2V4.1 3V5.1
  4V5.2 2V6.0 11U yV3.0 1V5.1 5V3.0 1V5.1 2V3.0 1V5.1 7V3.0 3V5.1 4V3.0 6V5.1 qV3.0 1sV5.1 4V5.2 2V5.1 12V1.1
  1U 1V6.1 5U 1V6.1 2U 13V1.1 2V3.2 2V4.1 1V1.1 1V4.1 3V6.1 2iV1.1 5V5.2 1wV1.1 5V5.2 2aV1.1 6V5.2 7V3.0 1V4.1
  1rV3.0 1V4.1 1V3.0 1U 4V3.0 2U 7V3.0 1U 1V3.0 1U 4V3.0 2U 13V3.0 1V4.1 1V3.0 1U 4V3.0 2U vV3.0 1V4.1 1V3.0
  1U 4V3.0 2U 7V3.0 1U 1V3.0 1U 4V3.0 2U 7V3.0 1V4.1 7V3.0 1U nV3.0 1V4.1 vV3.0 1V4.1 1V3.0 1U 4V3.0 2U 7V3.0
  1V4.1 13V3.0 1V4.1 jV3.0 2U 2V6.0 2V4.1 sV3.0 3U qV4.1 6U 2dV3.0 1V8.0 2U 6V8.0 2U 1V5.2 hiV3.0 9V5.2 tV3.0
  3U 29V3.0 8V7.0 7U dV3.2 1V14.0 7V3.2 1V14.0 9U 1V14.0 nV3.2 9U kV3.2 cU dV3.2 1U 3V3.2 1U 2V3.2 cU 2lV3.0
  1V4.0 2U aV3.0 6U aV4.0 6U fV3.0 1V14.0 aV3.0 6U 2gV3.0 1V11.0 7U 16V3.0 1V5.1 5U 1yV5.2 aU tV4.0 2V7.0 1U
  cV4.0 4U cV4.0 4U 1V4.0 3U 16V4.0 2U 5V4.0 bU 16V4.1 2V5.2 4U qV4.1 6U aV4.1 1V5.2 3U 2V4.1 wV4.0 sV4.1 2U
  2V4.1 1rV5.2 1U tV5.2 2U bV5.2 6U aV5.2 6U eV5.2 2U fV7.0 2V13.0 eV14.0 1dU 24V5.0 1V14.0 3U 19V5.0 2V14.0
  1U 17V5.1 3V6.1 cV5.1 6V6.1 1gV6.0 8U 4V6.0 1kV5.1 3U fV5.1 3U 1fV5.1 9V9.0 7U 17V11.0 2U 3V11.0 8V6.1 8U
  zV5.2 4V6.1 1V10.0 2V7.0 1V12.0 5U 30V4.0 2gV4.1 7V5.0 sV5.1 fV7.0 4V10.0 1V14.0 1V9.0 1V6.0 1V5.2 2V5.0
  4bV1.1 1V2.0 4V5.1 2iV1.1 6V5.1 mV1.1 2U 6V1.1 2U 12V1.1 2U 6V1.1 2U 8V1.1 1U 1V1.1 1U 1V1.1 1U 1V1.1 1U
  vV1.1 2U 1hV1.1 1U fV1.1 1U eV1.1 2U 6V1.1 1U jV1.1 2U 3V1.1 1U 9V1.1 1U 1bV1.1 1V3.0 nV1.1 1V3.2 6V3.0
  5V3.2 2V4.0 2V4.1 1V3.2 7V4.1 5V3.2 1V5.1 1U 4V6.3 7V1.1 1V3.2 2U rV1.1 1U 5V4.1 8V6.0 3U bV1.1 1V2.0 1V2.1
  3V3.0 2V3.2 4V4.1 3V5.2 1V6.0 1V6.2 3V7.0 1V8.0 1V10.0 1V14.0 fU iV1.1 2V3.0 7V3.2 1V4.1 4V5.0 1V5.1 fU
  1lV1.1 2V3.0 1V4.0 1V4.1 fV3.2 1V4.1 2V5.0 1V5.1 3V5.2 1cV1.1 1V3.0 1V5.0 4V5.1 1V5.2 2V8.0 4U 2jV1.1 9V3.0
  cV3.2 6qV1.1 eV3.2 1V1.1 1V3.0 3dV1.1 1V3.0 1V3.2 uV3.0 1gV3.2 2V4.0 bV4.1 cV5.0 1V5.2 bV6.0 7V7.0 4V9.0
  1V10.0 11V1.1 2V3.0 pU bV1.1 lU 3vV1.1 kV3.2 1V4.0 46V1.1 aV3.2 28V1.1 8V3.0 8V3.2 kV1.1 2V4.0 2V3.2 1V4.1
  1V3.0 2eV1.1 2V3.0 cV3.2 2V4.1 aV3.2 8V4.0 bV4.1 1V5.1 2V5.2 2V4.0 gV4.1 1V5.0 aV5.1 3V5.2 4V5.1 aV5.2 1V6.0
  jV5.2 1V6.0 1V5.2 4V6.0 oV5.2 1V7.0 4V1.1 1V6.0 4V1.1 2V6.0 sV1.1 1V6.0 zV1.1 1V6.0 1V1.1 1V6.0 4V1.1 3V6.0
  1V1.1 1V5.2 7V1.1 2V6.0 7V1.1 eV3.2 vV1.1 3V6.0 oV1.1 1V6.0 eV1.1 1V6.0 7V4.1 4V5.0 1V6.1 1V5.1 1V6.1 2V6.0
  sV3.2 4V5.1 gV3.2 74V3.0 e8V3.2 eV4.0 6V4.1 7V5.0 5V5.1 4V5.0 15V5.1 3V7.0 5V5.1 5V5.2 qV7.0 2U wV7.0 1U
  1V13.0 yV7.0 3V11.0 cV7.0 1V12.0 8V7.0 1V10.0 pV11.0 4V8.0 fV11.0 1V12.0 1bV4.1 1V14.0 1bV4.1 1V14.0 dV5.0
  3V5.1 1V5.2 3V5.1 4V5.0 6V5.1 2V5.2 2zV4.1 7V5.2 2V6.1 5U 19V4.1 1U 1V6.1 5U 1V6.1 2U 1iV4.1 2V6.1 7U 1V4.1
  1V6.0 eU 1V6.0 nV4.1 9U 7V4.1 1U 7V4.1 1U 7V4.1 1U 7V4.1 1U 7V4.1 1U 7V4.1 1U 7V4.1 1U 7V4.1 1U wV5.1 oV4.1
  4V5.1 2V4.1 jV5.1 1V5.2 aV6.1 7V7.0 2V9.0 5V10.0 5V11.0 1V12.0 3V13.0 bV14.0 yU qV3.0 1U 2hV3.0 cU 5yV3.0 qU
  cV3.0 4U 1kV1.1 3V3.0 3V3.2 1V3.0 1V1.1 1U 2cV1.1 2V3.2 2U 6V1.1 2V3.2 2mV1.1 1V3.2 5U 14V1.1 1V5.1 1V10.0
  1V11.0 1U 2mV1.1 1U gV1.1 oV3.0 3V6.0 5V13.0 gV4.1 kV5.1 cU gV3.2 tV1.1 2V4.0 1U 10V1.1 cV5.2 1V4.0 fV3.2
  sV1.1 2V4.0 1V4.1 1eV1.1 fV3.2 cV1.1 4V4.0 1bV1.1 1V12.1 3bV1.1 4V4.0 2rV1.1 2V4.0 vV1.1 1V4.0 52uV3.0
  aV13.0 1sV4.0 g4mV1.1 mV4.1 8V5.1 8V5.2 1V6.1 9V8.0 lV10.0 5V11.0 dV13.0 3V14.0 wdV3.0 3U iV3.0 2V3.2 gV3.0
  1V3.2 cV3.0 1V3.2 3V3.0 1V3.2 1V3.0 9U 1cV5.2 8cV5.1 kU wV5.1 2V6.0 iV5.1 8V6.1 sV5.1 6V7.0 1V8.0 1V6.1
  2gV5.2 8U nV4.1 4V5.0 5V5.1 2V5.0 2zV5.1 2V6.0 1V8.0 2V6.0 2V6.1 cV7.0 aV6.0 1V6.1 3V7.0 1V9.0 1V11.0 2V7.0
  6V8.0 2V11.0 6V12.0 2V14.0 5V12.0 4V13.0 5U 2V14.0 1U 1V14.0 1U 5V14.0 oU 3V14.0 2V13.0 1V7.0 2V6.1 1V6.0
  5V5.1 18V4.1 1V13.0 3U aV5.2 6U 1kV5.0 8U 1xV5.1 1V9.0 8U cV5.1 6U sV5.2 2V8.0 2V11.0 2cV5.1 bU 1V5.1 tV5.2
  3U 26V5.2 1U bV5.2 4U 2V5.2 vV7.0 1U 1jV5.1 9U eV5.1 2U aV5.1 2U 4V5.1 sV5.2 4V7.0 1vV5.2 oU 5V5.2 nV6.1 aU
  6V6.0 2U 6V6.0 2U 6V6.0 9U 7V6.0 1U 7V6.0 1U 1cV7.0 4V8.0 2V7.0 2V12.0 4V13.0 4U 28V8.0 1aV5.2 2U aV5.2 6U
  8mcV2.0 cU nV5.2 4U 1dV5.2 4U 1kwV2.0 566V1.1 2V6.1 1nV3.2 3V5.2 2U 2yV4.1 12U 7V1.1 cU 5V1.1 5U 1V3.0 pV1.1
  1U 5V1.1 1U 1V1.1 1U 2V1.1 1U 2V1.1 1U 30V1.1 gV6.0 1V14.0 gU a5V1.1 gV14.0 1sV1.1 2U 1iV1.1 7U 1V14.0 wV3.1
  cV1.1 1V3.2 1V4.0 2V14.0 gV3.2 aV4.1 6U 4V1.1 3V5.1 7V7.0 2V8.0 lV1.1 2V3.2 2V4.0 aV1.1 1U jV1.1 1U 4V1.1 4U
  3V1.1 1V3.2 1V1.1 1U 3rV1.1 2U 1V1.1 1U 2mV1.1 2V3.2 2mV1.1 3U 6V1.1 2U 6V1.1 2U 6V1.1 2U 3V1.1 3U 7V1.1 1U
  7V1.1 aU 3V3.0 1V2.1 3V1.1 cV4.0 1U qV4.0 1U jV4.0 1U 2V4.0 1U fV4.0 2U eV4.0 yU 3fV4.0 5U 3V4.0 4U 19V4.0
  3U 9V4.0 23V4.1 2V7.0 2V9.0 1U cV5.1 1V13.0 3U 1V7.0 1bU 1aV5.1 3mU tV5.1 3U 1dV5.1 fU sV7.0 4U vV3.1 1V7.0
  4V3.1 9U 3V10.0 rV3.1 5U 17V7.0 5U uV4.0 1U 1V4.0 10V4.1 4U eV4.1 16U 12V3.1 2V4.0 12V3.1 28V4.0 2U aV4.0 6U
  10V9.0 4U 10V9.0 4U 14V7.0 8U 1gV7.0 bU 1V7.0 bV14.0 1U fV14.0 1U 7V14.0 1U 2V14.0 1U bV14.0 1U fV14.0 1U
  7V14.0 1U 2V14.0 1vU 8nV7.0 9U mV7.0 aU 8V7.0 oU 6V14.0 1U 16V14.0 1U 9V14.0 1xU 6V4.0 2U 1V4.0 1U 18V4.0 1U
  2V4.0 3U 1V4.0 2U 1V4.0 mV5.2 1U 9V5.2 1rV7.0 8U 9V7.0 1cU jV8.0 1U 2V8.0 5U 5V8.0 qV5.0 2V5.2 3U 1V5.0
  qV5.1 5U 1V5.1 1sU 1kV6.1 4U 2V8.0 2V6.1 gV8.0 2U 1aV8.0 4V4.1 1U 2V4.1 5U 8V4.1 1U 3V4.1 1U rV4.1 2V11.0 2U
  3V4.1 4U 9V4.1 1V11.0 7U 9V4.1 7U wV5.2 wV7.0 wU 13V7.0 4U cV7.0 9U 1iV5.2 3U tV5.2 2U rV5.2 5U 8V5.2 iV7.0
  7U 4V7.0 cU 7V7.0 28U 21V5.2 1jU 1fV8.0 dU 1fV8.0 7U 6V8.0 14V11.0 8U aV11.0 86U vV5.2 1U 16V13.0 1U 3V13.0
  2U 2V13.0 23U 3V15.0 14V11.0 8U 16V11.0 mU qV14.0 12U sV13.0 kU nV12.0 9U 26V6.0 4U uV6.0 6V14.0 9U 1V7.0
  1uV5.2 1V14.0 aU 1V11.0 2U pV6.1 7U aV6.1 6U 1hV6.1 1U eV6.1 3V11.0 1V13.0 8U 13V7.0 9U 21V6.1 4V8.0 1V7.0
  2V13.0 aV6.1 1V7.0 5V8.0 1U kV7.0 bU iV7.0 1U 17V7.0 1V9.0 3V15.0 1qU 7V8.0 1U 1V8.0 1U 4V8.0 1U fV8.0 1U
  bV8.0 6U 1nV7.0 5U aV7.0 6U 1V8.0 3V7.0 1U 8V7.0 2U 2V7.0 2U mV7.0 1U 7V7.0 1U 2V7.0 1U 5V7.0 1U 1V11.0
  9V7.0 2U 2V7.0 2U 3V7.0 2U 1V8.0 6U 1V7.0 5U 7V7.0 2U 7V7.0 3U 5V7.0 3vU 2iV9.0 1V13.0 1V9.0 1U 1V9.0 1V11.0
  1V12.0 2V13.0 uU 20V7.0 8U aV7.0 4mU 1iV7.0 2U iV7.0 kV8.0 yU 1xV7.0 bU aV7.0 6U dV9.0 jU 1kV6.1 1V12.0
  1V14.0 6U aV6.1 1iU qV8.0 1V11.0 2U fV8.0 4U gV8.0 7V14.0 55U 1oV11.0 2sU 2bV7.0 cU 1V7.0 7V13.0 2U 1V13.0
  2U 8V13.0 1U 2V13.0 1U uV13.0 1U 2V13.0 2U cV13.0 9U aV13.0 1yU 8V12.0 2U 1aV12.0 2U bV12.0 rU 20V10.0 8U
  1gV10.0 2V12.0 nV10.0 1V11.0 5V10.0 dU gV14.0 1lV7.0 7U aV15.0 6uU 9V9.0 1U 19V9.0 1U eV9.0 aU tV9.0 3U
  wV9.0 2U mV9.0 1U eV9.0 21U 7V10.0 1U 2V10.0 1U 18V10.0 3U 1V10.0 1U 2V10.0 1U 9V10.0 8U aV10.0 6U 6V11.0 1U
  2V11.0 1U 11V11.0 1U 2V11.0 1U 6V11.0 7U aV11.0 8mU pV11.0 7U hV15.0 1U 15V15.0 3U sV15.0 2eU 1V13.0 fU
  1eV12.0 dU 1V12.0 ofV5.0 16V7.0 1V8.0 2uU 2rV5.0 cV7.0 1U 4V5.0 1V7.0 bU 5gV8.0 218U 2rV14.0 dU trV5.2
  1V15.0 9V12.0 tV15.0 33eU g7V8.0 6ntU ftV6.0 7U vV7.0 1U aV7.0 4U 2V7.0 27V14.0 1U aV14.0 6U uV7.0 2U 6V7.0
  aU 1yV7.0 aU aV7.0 1U 7V7.0 1U lV7.0 5U jV7.0 j4U 2jV11.0 2tU 1xV6.1 6V12.0 4U 1V12.0 1bV6.1 9V12.0 7U hV6.1
  1sU 1V9.0 1V10.0 2V12.0 1V13.0 bU 2V13.0 eU 4q5V9.0 5V11.0 6V12.0 8U kzV9.0 dfV13.0 16U 9V13.0 6w7U 4V14.0
  1U 7V14.0 1U 2V14.0 1U 2V6.0 7xV10.0 4V14.0 fU 1V15.0 tU 3V12.0 2U 1V15.0 eU 4V12.0 8U b0V10.0 1s4U 2zV7.0
  5U dV7.0 3U 9V7.0 7U aV7.0 2U 8V7.0 3mkU 1aV14.0 2U nV14.0 9U 38V14.0 1oU 6uV3.1 aU 13V3.1 2U 1V5.1 50V3.1
  bV8.0 2V14.0 lU 1yV4.1 3eU kV15.0 cU kV11.0 cU 2fV4.0 9U iV5.0 7V11.0 3rU 2dV3.1 1U 1zV3.1 1U 2V3.1 2U 1V3.1
  2U 2V3.1 2U 4V3.1 1U cV3.1 1U 1V3.1 1U 4V3.1 1V4.0 2V3.1 1U 1tV3.1 1U 4V3.1 2U 8V3.1 1U 7V3.1 1U sV3.1 1U
  4V3.1 1U 5V3.1 1U 1V3.1 3U 7V3.1 1U 9eV3.1 2V4.1 2U 82V3.1 2V5.0 2U 1eV3.1 i4V8.0 fU 5V8.0 1U fV8.0 uoU
  vV14.0 6U 6V15.0 5xU 7V9.0 1U hV9.0 2U 7V9.0 1U 2V9.0 1U 5V9.0 5U 1qV15.0 xU 1V15.0 34U 19V12.0 3U eV12.0 2U
  aV12.0 4U 2V12.0 8wU vV14.0 hU 1mV12.0 5U 1V12.0 cwU 16V15.0 kmU 7V14.0 1U 4V14.0 1U 2V14.0 1U fV14.0 1U
  5hV7.0 2U gV7.0 15U 23V9.0 1V12.0 4U aV9.0 4U 2V9.0 ltU 1wV11.0 24U 1pV12.0 5eU 4V6.1 1U rV6.1 1U 2V6.1 1U
  1V6.1 2U 1V6.1 1U aV6.1 1U 4V6.1 1U 1V6.1 1U 1V6.1 6U 1V6.1 4U 1V6.1 1U 1V6.1 1U 1V6.1 1U 3V6.1 1U 2V6.1 1U
  1V6.1 2U 1V6.1 1U 1V6.1 1U 1V6.1 1U 1V6.1 1U 1V6.1 1U 2V6.1 1U 1V6.1 2U 4V6.1 1U 7V6.1 1U 4V6.1 1U 4V6.1 1U
  1V6.1 1U aV6.1 1U hV6.1 5U 3V6.1 1U 5V6.1 1U hV6.1 1gU 2V6.1 7iU 18V5.1 4U 2sV5.1 cU fV6.0 2U eV6.0 1V7.0 1U
  fV6.0 1U fV6.0 mV7.0 aU bV5.2 2V7.0 3V13.0 vV5.2 1V11.0 1V6.0 1V5.2 bV6.0 1V5.2 1V6.0 1V5.2 2V6.0 1V5.2
  3V6.0 1V5.2 3V6.0 5V5.2 8V6.0 1V5.2 7V6.0 1V5.2 aV6.0 2V6.1 1V12.0 3V13.0 9V6.0 1V5.2 1V6.0 2V5.2 2V6.0
  1V5.2 aV6.0 4V5.2 2V6.0 1V5.2 aV6.0 iV9.0 1V13.0 1kU qV6.0 1V5.2 2V6.0 dU yV5.2 9V6.0 1V9.0 4U 9V5.2 7U
  2V6.0 eU 6V10.0 4aU xV6.0 cV7.0 3V8.0 6V6.0 1V7.0 1yV6.0 1V7.0 2V8.0 kV6.0 cV7.0 11V6.0 1V7.0 5V6.0 4V7.0
  5V8.0 cV7.0 hV6.0 7V7.0 8V8.0 1rV6.0 1V7.0 1V6.0 1V7.0 52V6.0 1V7.0 4V6.0 2V7.0 1V8.0 1qV6.0 2V7.0 4V6.1
  7V7.0 5V8.0 oV6.0 iV7.0 1V9.0 15V7.0 1V9.0 2eV7.0 5V6.0 1V6.1 gV6.0 1V6.1 3V6.0 1V6.1 1V6.0 1V6.1 1V6.0
  1V6.1 1V6.0 1V6.1 3V6.0 1V6.1 6V6.0 2V6.1 4V6.0 1V6.1 1V6.0 2V6.1 4V6.0 1V6.1 cV6.0 2V7.0 2V8.0 bV6.0 1cV7.0
  1yV6.0 aV7.0 1V8.0 2V9.0 2V10.0 1V12.0 2V13.0 4U 1V15.0 3V14.0 dV7.0 3U 4V7.0 3V9.0 2V10.0 1V11.0 1V12.0
  2V13.0 3U 38V6.0 3V15.0 4U 5V15.0 2dV7.0 4V11.0 1V15.0 6U cV12.0 4U 1V14.0 fU cV7.0 4U 1kV7.0 8U aV7.0 6U
  14V7.0 8U uV7.0 2U 2V13.0 26U cV10.0 1V13.0 3V12.0 9V8.0 6V9.0 1V10.0 8V9.0 8V10.0 1V9.0 2V10.0 cV9.0 1V12.0
  cV9.0 1V10.0 3V11.0 fV9.0 dV10.0 5V11.0 1V12.0 1V13.0 4V11.0 2V13.0 1V14.0 1V11.0 1V12.0 4V11.0 5V8.0 dV9.0
  6V10.0 bV11.0 2V13.0 6V12.0 3V13.0 2V12.0 aV11.0 6V12.0 1V8.0 2V11.0 8V12.0 1V13.0 1V14.0 3V12.0 nV10.0
  pV11.0 2cV12.0 cU eV11.0 2U 4V12.0 1V13.0 3V15.0 3V12.0 2V14.0 3U 3V12.0 4V13.0 2V15.0 7U 6V12.0 jV13.0
  4V14.0 3V15.0 7V13.0 4V14.0 3V15.0 1U 1V15.0 3V13.0 3V14.0 8U 2V15.0 7V13.0 3V14.0 2V15.0 4U 8V14.0 1V15.0
  7U 7V14.0 2V15.0 7U 43V13.0 1U 1jV13.0 11U aV13.0 skU 2V2.0 wyfV3.1 7V13.0 2V14.0 wU 379V5.2 4V14.0 1V15.0
  6U 66V6.0 2U 4g2V8.0 eU 5rlV10.0 2e7U f2V3.1 15sU 2V2.0 3t7V13.0 5U 38gV15.0 17imU 2V2.0 1ekeU 2V2.0 1ekeU
  2V2.0 1ekeU 2V2.0 1ekeU 2V2.0 1ekeU 2V2.0 1ekeU 2V2.0 1ekeU 2V2.0 1ekeU 2V2.0 1ekeU 2V2.0 1ekeU 2V2.0 1U
  1V3.1 uU 2oV3.1 3kU 6oV4.0 1e6mU 2t4yV2.0"

def table : Partition := Partition.decode runs

def versions : List String := [
  "V1.1", "V2.0", "V2.1", "V3.0", "V3.1", "V3.2", "V4.0", "V4.1", "V5.0", "V5.1", "V5.2", "V6.0", "V6.1", "V6.2",
  "V6.3", "V7.0", "V8.0", "V9.0", "V10.0", "V11.0", "V12.0", "V12.1", "V13.0", "V14.0", "V15.0"]

/-- A version is named by its number, or by its number without the point behind a `v`. -/
def isName (name version : String) : Bool :=
  let number := version.toList.drop 1
  name.toList = number || name.toList = 'v' :: number.filter (· ≠ '.')

/-- The characters that a version and those before it assigned. -/
def find? (name : String) : Option CharSet :=
  (versions.find? (isName name)).map (fun v =>
    let known := versions.takeWhile (· ≠ v) ++ [v]
    table.select (known.contains ·))

end Age
end ProductQuery
